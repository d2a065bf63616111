import LedgerWire.Proofs.Layout.Exchange
import LedgerWire.Result.Transaction

/-!
Contract: the layouts of results recover the values that the wire carries whole. What comes with a
code may be of another shape than the one that is due, or hold a trade of which a part is dropped;
everything else of a result is shown.

The writer goes by what is there and the reader by numbers: code by code, the two agree on the
results that are carried.

Owns:
- `Carried` for results of operations and of transactions: whether nothing is there that the wire
  drops or shows as something else;
- the law of the layout of each of these, for the values that are carried.

Does not own: what this says about whole inputs.
-/

namespace LedgerWire

open Wire Codec

/-! ### What comes with a code -/

/-- Whether what comes with a code holds nothing that the wire drops. -/
def Payload.Carried : Payload → Prop
  | .path success => success.Carried
  | .offer success => success.Carried
  | .asset _ | .balance _ | .payouts _ | .claimable _ => True

instance (payload : Payload) : Decidable payload.Carried :=
  match payload with
  | .path success => inferInstanceAs (Decidable success.Carried)
  | .offer success => inferInstanceAs (Decidable success.Carried)
  | .asset _ | .balance _ | .payouts _ | .claimable _ => inferInstanceAs (Decidable True)

/-- Whether what comes with the code is of the shape that is due with it, and carried. -/
def AppliedResult.Carried (result : AppliedResult) : Prop :=
  ∀ payload ∈ result.payload,
    Payload.shapeFor? result.kind result.code = some payload.shape ∧ payload.Carried

instance (result : AppliedResult) : Decidable result.Carried :=
  inferInstanceAs (Decidable (∀ payload ∈ result.payload,
    Payload.shapeFor? result.kind result.code = some payload.shape ∧ payload.Carried))

theorem InflationPayout.faithful_codec : InflationPayout.codec.Faithful :=
  (PublicKey.faithful_codec.pair Stroops.faithful_codec).convert (fun _ => rfl) (fun _ => rfl)

theorem InflationPayout.wide_codec : InflationPayout.codec.Wide :=
  ((Wide.union (wide_integer .int32)).pair _).convert _ _

/-- The layout of payloads where one of a shape is due. -/
def Payload.codec (due : Shape) : Codec Payload := ⟨fun payload => payload.write due, read due⟩

private theorem recovers_shape {Content : Type} {content : Codec Content} {Proper : Content → Prop}
    (law : content.Recovers Proper) {due : Payload.Shape} (build : Content → Payload)
    (read_eq : Payload.read due = do return build (← content.read))
    (write_build : ∀ x, (build x).write due = content.write x)
    (carried_build : ∀ x, Proper x → (build x).shape = due ∧ (build x).Carried)
    (exists_build : ∀ payload, payload.shape = due → payload.Carried → ∃ x, Proper x ∧
      build x = payload) :
    (Payload.codec due).Recovers fun payload => payload.shape = due ∧ payload.Carried := by
  apply law.build build read_eq
  · intro x proper
    exact ⟨carried_build x proper, write_build x⟩
  · intro payload own
    exact exists_build payload own.1 own.2

/-- Where a shape is due, the payloads of the shape come back. -/
theorem Payload.recovers_codec (due : Shape) :
    (Payload.codec due).Recovers fun payload => payload.shape = due ∧ payload.Carried := by
  cases due with
  | path =>
    apply recovers_shape PathPaymentSuccess.recovers_codec .path rfl (fun _ => rfl)
      fun _ carried => ⟨rfl, carried⟩
    intro payload isDue carried
    cases payload <;> cases isDue
    exact ⟨_, carried, rfl⟩
  | asset =>
    apply recovers_shape Asset.faithful_codec.recovers .asset rfl (fun _ => rfl)
      fun _ _ => ⟨rfl, trivial⟩
    intro payload isDue _
    cases payload <;> cases isDue
    exact ⟨_, trivial, rfl⟩
  | offer =>
    apply recovers_shape ManageOfferSuccess.recovers_codec .offer rfl (fun _ => rfl)
      fun _ carried => ⟨rfl, carried⟩
    intro payload isDue carried
    cases payload <;> cases isDue
    exact ⟨_, carried, rfl⟩
  | balance =>
    apply recovers_shape Stroops.faithful_codec.recovers .balance rfl (fun _ => rfl)
      fun _ _ => ⟨rfl, trivial⟩
    intro payload isDue _
    cases payload <;> cases isDue
    exact ⟨_, trivial, rfl⟩
  | payouts =>
    have payouts := InflationPayout.faithful_codec.array InflationPayout.wide_codec none
    apply recovers_shape payouts.recovers .payouts rfl (fun _ => rfl)
      fun _ _ => ⟨rfl, trivial⟩
    intro payload isDue _
    cases payload <;> cases isDue
    exact ⟨_, trivial, rfl⟩
  | claimable =>
    apply recovers_shape ClaimableBalanceId.faithful_codec.recovers .claimable rfl (fun _ => rfl)
      fun _ _ => ⟨rfl, trivial⟩
    intro payload isDue _
    cases payload <;> cases isDue
    exact ⟨_, trivial, rfl⟩

/-! ### Applied operations -/

theorem AppliedResult.make_eq_ok_iff {kind : OperationKind} {code : Int} {payload : Option Payload}
    {result : AppliedResult} :
    make kind code payload = .ok result ↔
      result.kind = kind ∧ result.code = code ∧ result.payload = payload := by
  rcases result with ⟨kind', code', payload', known, payload_iff⟩
  constructor
  · intro made
    unfold make at made
    split_ifs at made with isKnown matching
    cases made
    exact ⟨rfl, rfl, rfl⟩
  · intro same
    obtain ⟨rfl, rfl, rfl⟩ := same
    rw [make, dif_pos known, dif_pos payload_iff]

/-- The layout of what comes with a code, which is nothing where nothing is due. -/
def Payload.optionalCodec (due? : Option Shape) : Codec (Option Payload) where
  write payload? :=
    match due?, payload? with
    | some due, some payload => payload.write due
    | _, _ => Output.done []
  read :=
    match due? with
    | none => return none
    | some due => return some (← Payload.read due)

theorem Payload.recovers_optionalCodec (due? : Option Shape) :
    (optionalCodec due?).Recovers fun payload? =>
      due?.isSome = payload?.isSome ∧ ∀ payload ∈ payload?, due? = some payload.shape ∧
      payload.Carried := by
  cases due? with
  | none =>
    apply faithful_nothing.recovers.build (fun _ => none) rfl
    · intro _ _
      refine ⟨⟨rfl, ?_⟩, rfl⟩
      intro payload found
      cases found
    · intro payload? absent
      cases payload? with
      | none => exact ⟨(), trivial, rfl⟩
      | some payload => cases absent.1
  | some due =>
    apply (Payload.recovers_codec due).build some rfl
    · intro payload own
      refine ⟨⟨rfl, ?_⟩, rfl⟩
      intro other same
      cases same
      exact ⟨congrArg some own.1.symm, own.2⟩
    · intro payload? present
      cases payload? with
      | none => cases present.1
      | some payload =>
        rcases present.2 payload rfl with ⟨isDue, carried⟩
        exact ⟨payload, ⟨(Option.some.inj isDue).symm, carried⟩, rfl⟩

/-- What is due with a code is read, and then the result is made. -/
private theorem run_due_eq_ok {due? : Option Payload.Shape} {kind : OperationKind} {code : Int}
    {cursor after : Cursor} {result : AppliedResult} :
    (match due? with
      | none => Reader.ofExcept (AppliedResult.make kind code none)
      | some due => do
        let payload ← Payload.read due
        Reader.ofExcept (AppliedResult.make kind code (some payload)) : Reader AppliedResult).run
          cursor =
          .ok result after ↔
      (Payload.optionalCodec due?).read.run cursor = .ok result.payload after ∧
        result.kind = kind ∧ result.code = code := by
  cases due? with
  | none =>
    simp only [Payload.optionalCodec, Reader.run_ofExcept_eq_ok, AppliedResult.make_eq_ok_iff,
      Outcome.run_pure_eq_ok]
    tauto
  | some due =>
    simp only [Payload.optionalCodec, Outcome.run_bind_eq_ok, Reader.run_ofExcept_eq_ok,
      AppliedResult.make_eq_ok_iff, Outcome.run_pure_eq_ok]
    constructor
    · intro steps
      rcases steps with ⟨payload, _, read, ⟨isKind, isCode, present⟩, rfl⟩
      exact ⟨⟨payload, _, read, present, rfl⟩, isKind, isCode⟩
    · intro steps
      rcases steps with ⟨⟨payload, _, read, present, rfl⟩, isKind, isCode⟩
      exact ⟨payload, _, read, ⟨isKind, isCode, present⟩, rfl⟩

/-- A result is read by its kind, its code, and what is due with the code. -/
theorem AppliedResult.run_read_eq_ok {cursor after : Cursor} {result : AppliedResult} :
    read.run cursor = .ok result after ↔
      ∃ afterKind afterCode, int32.read.run cursor = .ok result.kind.number afterKind ∧
        int32.read.run afterKind = .ok result.code afterCode ∧
        (Payload.optionalCodec (Payload.shapeFor? result.kind result.code)).read.run afterCode =
          .ok result.payload after := by
  simp only [read, Outcome.run_bind_eq_ok]
  constructor
  · intro readResult
    rcases readResult with ⟨number, afterKind, readKind, readResult⟩
    cases isKind : OperationKind.ofNumber? number with
    | none => simp [isKind] at readResult
    | some kind =>
      obtain rfl := OperationKind.number_eq_of_ofNumber? isKind
      simp only [isKind, Outcome.run_bind_eq_ok] at readResult
      rcases readResult with ⟨code, afterCode, readCode, readResult⟩
      obtain ⟨readPayload, rfl, rfl⟩ := run_due_eq_ok.mp readResult
      exact ⟨afterKind, afterCode, readKind, readCode, readPayload⟩
  · intro parts
    rcases parts with ⟨afterKind, afterCode, readKind, readCode, readPayload⟩
    refine ⟨_, afterKind, readKind, ?_⟩
    simp only [OperationKind.ofNumber?_number, Outcome.run_bind_eq_ok]
    exact ⟨_, afterCode, readCode, run_due_eq_ok.mpr ⟨readPayload, rfl, rfl⟩⟩

theorem AppliedResult.recovers_codec : AppliedResult.codec.Recovers Carried where
  canonical := by
    intro cursor result after readResult
    rcases run_read_eq_ok.mp readResult with ⟨afterKind, afterCode, readKind, readCode, readPayload⟩
    rcases faithful_int32.canonical readKind with ⟨front, split, writtenKind, -⟩
    rcases faithful_int32.canonical readCode with ⟨middle, split', writtenCode, -⟩
    rcases (Payload.recovers_optionalCodec _).canonical readPayload with
      ⟨own, back, split'', written⟩
    refine ⟨own.2, front ++ (middle ++ back), ?_, ?_⟩
    · rw [split, split', split'', List.append_assoc, List.append_assoc]
    · apply Output.append_eq_done_iff.mpr
      refine ⟨front, middle ++ back, writtenKind, ?_, rfl⟩
      exact Output.append_eq_done_iff.mpr ⟨middle, back, writtenCode, written, rfl⟩
  restores := by
    intro result bytes carried written
    rcases Output.append_eq_done_iff.mp written with ⟨front, rest, writtenKind, writtenRest, rfl⟩
    rcases Output.append_eq_done_iff.mp writtenRest with
      ⟨middle, back, writtenCode, writtenPayload, rfl⟩
    have kind := faithful_int32.yields writtenKind
    have code := faithful_int32.yields writtenCode
    have payload :=
      (Payload.recovers_optionalCodec _).restores ⟨result.payload_iff, carried⟩ writtenPayload
    intro offset tail
    rw [List.append_assoc, List.append_assoc, List.length_append, List.length_append,
      ← Nat.add_assoc, ← Nat.add_assoc]
    exact run_read_eq_ok.mpr ⟨_, _, kind _ _, code _ _, payload _ _⟩

/-! ### Operations -/

def OperationResult.Carried (result : OperationResult) : Prop :=
  ∀ inner ∈ result.inner?, inner.Carried

instance (result : OperationResult) : Decidable result.Carried :=
  inferInstanceAs (Decidable (∀ inner ∈ result.inner?, inner.Carried))

theorem OperationResultCode.ofNumber?_number (code : OperationResultCode) :
    ofNumber? code.number = some code := by
  cases code <;> rfl

theorem OperationResultCode.number_eq_of_ofNumber? {number : Int} {code : OperationResultCode}
    (found : ofNumber? number = some code) : code.number = number := by
  simpa using List.find?_some found

theorem OperationResultCode.number_injective : Function.Injective number := by
  have inverse : ofNumber? ∘ number = some := funext ofNumber?_number
  apply Function.Injective.of_comp
  rw [inverse]
  exact Option.some_injective _

theorem OperationResult.recovers_codec : OperationResult.codec.Recovers Carried := by
  apply Recovers.union faithful_int32
  intro number arm found
  rcases Option.map_eq_some_iff.mp found with ⟨code, isCode, rfl⟩
  obtain rfl := OperationResultCode.number_eq_of_ofNumber? isCode
  split_ifs with refused
  · apply faithful_nothing.recovers.arm
    · intro _ _
      refine ⟨⟨rfl, ?_⟩, rfl⟩
      intro other found
      cases found
    · intro result own
      have same := OperationResultCode.number_injective own.1
      cases result with
      | applied inner => exact absurd same.symm refused
      | refused other _ =>
        obtain rfl : other = code := same
        exact ⟨(), trivial, rfl⟩
  · obtain rfl : code = .inner := not_not.mp refused
    apply AppliedResult.recovers_codec.arm
    · intro inner carried
      refine ⟨⟨rfl, ?_⟩, rfl⟩
      intro other same
      cases same
      exact carried
    · intro result own
      have same := OperationResultCode.number_injective own.1
      cases result with
      | applied inner => exact ⟨inner, own.2 inner rfl, rfl⟩
      | refused other isRefused => exact absurd same isRefused

theorem OperationResult.wide_codec : OperationResult.codec.Wide := Wide.union (wide_integer .int32)

/-! ### Transactions -/

def Outcome.Carried (outcome : Outcome) : Prop :=
  ∀ results ∈ outcome.results?, ∀ result ∈ results, result.Carried

def InnerTransactionResult.Carried (result : InnerTransactionResult) : Prop :=
    result.outcome.Carried

/-- Whether the result of every operation, of the inner transaction where there is one, is
carried. -/
def TransactionResult.Carried (result : TransactionResult) : Prop :=
  ∀ operation ∈ result.operationResults, operation.Carried

instance (result : TransactionResult) : Decidable result.Carried :=
  inferInstanceAs (Decidable (∀ operation ∈ result.operationResults, operation.Carried))

def FinalOutcome.Carried : FinalOutcome → Prop
  | .own outcome => outcome.Carried
  | .feeBump _ _ inner => inner.Carried

theorem TransactionResultCode.ofNumber?_number (code : TransactionResultCode) :
    ofNumber? code.number = some code := by
  cases code <;> rfl

theorem TransactionResultCode.number_eq_of_ofNumber? {number : Int} {code : TransactionResultCode}
    (found : ofNumber? number = some code) : code.number = number := by
  simpa using List.find?_some found

theorem TransactionResultCode.number_injective : Function.Injective number := by
  have inverse : ofNumber? ∘ number = some := funext ofNumber?_number
  apply Function.Injective.of_comp
  rw [inverse]
  exact Option.some_injective _

/-- A code with results is that of a transaction that was carried out. -/
theorem Outcome.code_carriedOut {code : TransactionResultCode} (withResults : code.CarriesResults)
    (results : List OperationResult) :
    Outcome.code (.carriedOut (code = .success) results) = code := by
  rcases withResults with rfl | rfl <;> rfl

theorem Outcome.carriesResults_code (succeeded : Bool) (results : List OperationResult) :
    (Outcome.code (.carriedOut succeeded results)).CarriesResults := by
  cases succeeded
  · exact Or.inr rfl
  · exact Or.inl rfl

theorem Outcome.recovers_kinds {number : Int} {arm : Codec Outcome}
    (found : kinds number = some arm) :
    arm.Recovers fun outcome => outcome.code.number = number ∧ outcome.Carried := by
  rcases Option.bind_eq_some_iff.mp found with ⟨code, isCode, arms⟩
  obtain rfl := TransactionResultCode.number_eq_of_ofNumber? isCode
  split_ifs at arms with withResults bare
  · obtain rfl := Option.some.inj arms
    apply (OperationResult.recovers_codec.array OperationResult.wide_codec none).arm
    · intro results carried
      refine ⟨⟨congrArg _ (code_carriedOut withResults results), ?_⟩, rfl⟩
      intro other same
      cases same
      exact carried
    · intro outcome own
      obtain rfl := TransactionResultCode.number_injective own.1
      cases outcome with
      | carriedOut succeeded results =>
        refine ⟨results, own.2 results rfl, ?_⟩
        cases succeeded <;> rfl
      | rejected code bare => exact absurd withResults bare.1
  · obtain rfl := Option.some.inj arms
    apply faithful_nothing.recovers.arm
    · intro _ _
      refine ⟨⟨rfl, ?_⟩, rfl⟩
      intro other found
      cases found
    · intro outcome own
      have same := TransactionResultCode.number_injective own.1
      cases outcome with
      | carriedOut succeeded results =>
        rw [← same] at withResults
        exact absurd (carriesResults_code succeeded results) withResults
      | rejected other _ =>
        obtain rfl : other = code := same
        exact ⟨(), trivial, rfl⟩

/-- What stands between the fee and the reserved number is all that may be dropped. -/
private theorem recovers_result {Content : Type} {outcome : Codec Content} {Proper : Content → Prop}
    (law : outcome.Recovers Proper) :
    (Stroops.codec.pair
      (outcome.pair (Codec.reserved TransactionResultCode.unknownExtension))).Recovers
      fun parts => Proper parts.2.1 := by
  have reserved := (faithful_reserved TransactionResultCode.unknownExtension).recovers
  apply (Stroops.faithful_codec.recovers.pair (law.pair reserved)).congr
  intro parts
  exact (and_iff_right trivial).trans (and_iff_left trivial)

theorem InnerTransactionResult.recovers_codec : InnerTransactionResult.codec.Recovers Carried := by
  have outcome :
      (Codec.union int32 (·.code.number) Outcome.kinds unknownCode).Recovers Outcome.Carried :=
    Recovers.union faithful_int32 fun _ _ found => Outcome.recovers_kinds found
  exact (recovers_result outcome).convert (fun _ => rfl) fun _ => rfl

theorem TransactionResultCode.isFeeBump_iff_number (code : TransactionResultCode) :
    code.IsFeeBump ↔ code.number = 1 ∨ code.number = -13 := by
  cases code <;> decide

theorem Outcome.not_isFeeBump_code (outcome : Outcome) : ¬ outcome.code.IsFeeBump := by
  cases outcome with
  | carriedOut succeeded results => cases succeeded <;> simp [code, TransactionResultCode.IsFeeBump]
  | rejected code bare => exact bare.2

theorem FinalOutcome.recovers_kinds {number : Int} {arm : Codec FinalOutcome}
    (found : kinds number = some arm) :
    arm.Recovers fun outcome => outcome.code.number = number ∧ outcome.Carried := by
  unfold kinds at found
  split_ifs at found with isFeeBump
  · obtain rfl := Option.some.inj found
    have oneOf : number = 1 ∨ number = -13 := by simpa using isFeeBump
    apply ((faithful_fixedBytes 32).recovers.pair InnerTransactionResult.recovers_codec).arm
    · intro parts carried
      refine ⟨⟨?_, carried.2⟩, rfl⟩
      rcases oneOf with rfl | rfl <;> rfl
    · intro outcome own
      cases outcome with
      | own outcome =>
        -- the number is that of a fee bump, which no transaction itself has
        apply absurd _ outcome.not_isFeeBump_code
        apply (TransactionResultCode.isFeeBump_iff_number _).mpr
        rw [show outcome.code.number = number from own.1]
        exact oneOf
      | feeBump succeeded hash inner =>
        refine ⟨(hash, inner), ⟨trivial, own.2⟩, ?_⟩
        obtain rfl := own.1
        cases succeeded <;> rfl
  · rcases Option.map_eq_some_iff.mp found with ⟨arm, ofOwn, rfl⟩
    apply (Outcome.recovers_kinds ofOwn).arm
    · intro outcome own
      exact ⟨own, rfl⟩
    · intro outcome own
      cases outcome with
      | own outcome => exact ⟨outcome, own, rfl⟩
      | feeBump succeeded hash inner =>
        apply absurd _ isFeeBump
        obtain rfl := own.1
        cases succeeded <;> rfl

theorem Outcome.carried_iff (outcome : Outcome) :
    outcome.Carried ↔ ∀ result ∈ outcome.results?.getD [], result.Carried := by
  cases outcome with
  | carriedOut succeeded results => simp [Carried, results?]
  | rejected code bare => simp [Carried, results?]

theorem TransactionResult.carried_iff (result : TransactionResult) :
    result.Carried ↔ result.outcome.Carried := by
  rcases result with ⟨feeCharged, outcome⟩
  cases outcome with
  | own outcome => exact outcome.carried_iff.symm
  | feeBump succeeded hash inner => exact inner.outcome.carried_iff.symm

theorem TransactionResult.recovers_codec : TransactionResult.codec.Recovers Carried := by
  have outcome : (Codec.union int32 (·.code.number) FinalOutcome.kinds Outcome.unknownCode).Recovers
      FinalOutcome.Carried :=
    Recovers.union faithful_int32 fun _ _ found => FinalOutcome.recovers_kinds found
  apply ((recovers_result outcome).convert (fun _ => rfl) fun _ => rfl).congr
  intro result
  exact result.carried_iff.symm

end LedgerWire
