import LedgerWire.Proofs.Layout.Operation
import LedgerWire.Transaction.Basic

/-!
Contract: the layouts of memos, transactions, fee bumps and envelopes. Transactions without
operations and fee bumps below the least fee can be written and are not read, so the law asks for
what building checks.

Owns:
- `Transaction.Every`, a property of all times, and `Transaction.Decodable`, which says that times
  and conditions are read back;
- `TaggedTransaction.WellMade`, what building a transaction or a fee bump checks;
- the law of `TaggedTransaction.codec` and `Envelope.codec`, up to equality of Unix times, and when
  contents are the same as others that have the same Unix times.

Does not own: what follows of it for encodings, decodings and signatures.
-/

namespace LedgerWire

open Wire Codec

/-! ### Memos -/

theorem Memo.ofText_eq_ok_iff {value : String} {memo : Memo} :
    Memo.ofText value = .ok memo ↔ memo.kind.number = 1 ∧ memo.text?.getD "" = value := by
  rw [Memo.ofText]
  constructor
  · intro accepted
    split_ifs at accepted
    cases accepted
    exact ⟨rfl, rfl⟩
  · intro fields
    rcases fields with ⟨isText, rfl⟩
    cases memo with
    | text value size => exact dif_pos size
    | _ => cases isText

theorem Memo.ofId_eq_ok_iff {value : Int} {memo : Memo} :
    Memo.ofId value = .ok memo ↔ memo.kind.number = 2 ∧
      ((memo.id?.getD 0 : Nat) : Int) = value := by
  rw [Memo.ofId]
  constructor
  · intro accepted
    split_ifs at accepted with inRange
    cases accepted
    exact ⟨rfl, Int.toNat_of_nonneg inRange.1⟩
  · intro fields
    rcases fields with ⟨isId, rfl⟩
    cases memo with
    | id value below =>
      have inRange : (0 : Int) ≤ value ∧ (value : Int) < 2 ^ 64 := by omega
      exact dif_pos inRange
    | _ => cases isId

theorem Memo.faithful_codec : Memo.codec.Faithful := by
  apply Faithful.union faithful_int32
  intro kind arm found
  unfold Memo.kinds at found
  split_ifs at found with isAbsent isText isId isHash isReturn
  · obtain rfl := Option.some.inj found
    refine faithful_nothing.toArm ?_ fun _ _ _ => isAbsent.symm
    intro memo content
    cases memo <;> simp
  · obtain rfl := Option.some.inj found
    subst isText
    exact (faithful_text (some 28)).refineArm fun _ _ => Memo.ofText_eq_ok_iff
  · obtain rfl := Option.some.inj found
    subst isId
    exact faithful_uint64.refineArm fun _ _ => Memo.ofId_eq_ok_iff
  · obtain rfl := Option.some.inj found
    refine (faithful_fixedBytes 32).toArm ?_ fun _ _ _ => isHash.symm
    intro memo content
    cases memo <;> simp [Memo.hash?, eq_comm]
  · obtain rfl := Option.some.inj found
    refine (faithful_fixedBytes 32).toArm ?_ fun _ _ _ => isReturn.symm
    intro memo content
    cases memo <;> simp [Memo.returnHash?, eq_comm]

/-! ### Transactions -/

namespace Transaction

theorem sameOperationsBy_eq_true_iff {times : TimeRelation} {as bs : List Operation} :
    sameOperationsBy times as bs = true ↔
      List.Forall₂ (fun a b => a.sameBy times b = true) as bs := by
  induction as generalizing bs with
  | nil => cases bs <;> simp [sameOperationsBy]
  | cons a as inductionHypothesis => cases bs <;> simp [sameOperationsBy, inductionHypothesis]

theorem sameTimeBoundsBy_eq_true_iff {times : TimeRelation} {a b : Option TimeBounds} :
    sameTimeBoundsBy times a b = true ↔ Option.Rel (fun a b => a.sameBy times b = true) a b := by
  cases a <;> cases b <;> simp [sameTimeBoundsBy]

/-- Transactions are the same if all their parts are, times compared in the given way. -/
theorem sameBy_eq_true_iff {times : TimeRelation} {a b : Transaction} :
    a.sameBy times b = true ↔
      (a.source = b.source ∧ a.sequence = b.sequence ∧ a.fee = b.fee ∧ a.memo = b.memo) ∧
        Option.Rel (fun a b => a.sameBy times b = true) a.timeBounds b.timeBounds ∧
        List.Forall₂ (fun a b => a.sameBy times b = true) a.operations b.operations := by
  rw [← sameOperationsBy_eq_true_iff, ← sameTimeBoundsBy_eq_true_iff]
  simp only [sameBy, Bool.and_eq_true, beq_iff_eq]
  tauto

/-- Whether every time, of the bounds and in conditions on claims, has a property. -/
def Every (P : Moment → Prop) (tx : Transaction) : Prop :=
  (∀ bounds ∈ tx.timeBounds, bounds.Every P) ∧ ∀ operation ∈ tx.operations, operation.Every P

/-- Whether a transaction is read back: UTC can show its time bounds and deadlines, the bounds are
in order there, and the conditions on its claims are no deeper than the limit. -/
def Decodable (tx : Transaction) : Prop :=
  (∀ bounds ∈ tx.timeBounds, bounds.Decodable) ∧ ∀ operation ∈ tx.operations, operation.Decodable

theorem Every.mono {P Q : Moment → Prop} (implies : ∀ m, P m → Q m) {tx : Transaction}
    (every : tx.Every P) : tx.Every Q :=
  ⟨fun bounds stated => (every.1 bounds stated).mono implies,
    fun operation member => (every.2 operation member).mono implies⟩

/-- Operations are told one by one; there has to be one for them to be read back. -/
theorem lawful_operationsCodec :
    operationsCodec.Lawful (List.Forall₂ fun a b => a.sameBy Moment.alike b = true)
      (fun operations => operations ≠ [] ∧ ∀ operation ∈ operations, operation.Decodable) := by
  refine (Operation.lawful_codec.array Operation.wide_codec _).refine ?_ (fun _ good => good.2) ?_
  · intro operations accepted _ _ checked
    split_ifs at checked
    cases checked
    rfl
  · intro operations others _ good _ same
    have nonempty := good.1
    cases same with
    | nil => exact absurd rfl nonempty
    | cons first rest => exact ⟨_, rfl⟩

theorem lawful_codec :
    Transaction.codec.Lawful (fun a b => a.sameBy Moment.alike b = true)
      (fun tx => tx.operations ≠ [] ∧ tx.Decodable) := by
  have parts := Lawful.pair MuxedAccount.faithful_codec <|
    Lawful.pair Stroops.faithful_feeCodec <|
    Lawful.pair faithful_int64 <|
    Lawful.pair TimeBounds.lawful_codec.optional <|
    Lawful.pair Memo.faithful_codec <|
    lawful_operationsCodec.pair (faithful_reserved unknownExtension)
  apply Lawful.mono (parts.convert fun _ => rfl)
  · intro a b related
    rcases related with ⟨source, fee, sequence, timeBounds, memo, operations, -⟩
    exact sameBy_eq_true_iff.mpr ⟨⟨source, sequence, fee, memo⟩, timeBounds, operations⟩
  · intro tx good
    rcases good with ⟨nonempty, readBack, decodable⟩
    exact ⟨trivial, trivial, trivial, readBack, trivial, ⟨nonempty, decodable⟩, trivial⟩

/-- Times that are read are on clocks in UTC, and would be read back. -/
theorem reads_codec : Transaction.codec.Reads fun tx => tx.Decodable ∧ tx.Every Moment.InUtc := by
  have operations : operationsCodec.Reads fun operations =>
      ∀ operation ∈ operations, operation.Decodable ∧ operation.Every Moment.InUtc := by
    refine (Operation.reads_codec.array _).refine ?_
    intro operations accepted every checked
    split_ifs at checked
    cases checked
    exact every
  have parts := (reads_of_forall MuxedAccount.codec fun _ => trivial).pair <|
    (reads_of_forall Stroops.feeCodec fun _ => trivial).pair <|
    (reads_of_forall Codec.int64 fun _ => trivial).pair <|
    TimeBounds.reads_codec.optional.pair <|
    (reads_of_forall Memo.codec fun _ => trivial).pair <|
    operations.pair (reads_of_forall (Codec.reserved unknownExtension) fun _ => trivial)
  refine parts.convert ?_
  intro (source, fee, sequence, timeBounds, memo, operations, _) every
  obtain ⟨-, -, -, bounds, -, operations, -⟩ := every
  obtain ⟨decodable, inUtc⟩ := forall₂_and.mp operations
  exact ⟨⟨fun stated isStated => TimeBounds.decodable_of_inUtc (bounds stated isStated), decodable⟩,
    bounds, inUtc⟩

theorem length_operations_of_sameBy {times : TimeRelation} {a b : Transaction}
    (same : a.sameBy times b = true) : a.operations.length = b.operations.length :=
  (sameBy_eq_true_iff.mp same).2.2.length_eq

theorem same_iff_exact {a b : Transaction} (alike : a.sameBy Moment.alike b = true)
    (definite : b.Every Moment.Definite) :
    a.sameBy Moment.sameIfAny b = true ↔ a.Every Moment.Exact := by
  rw [sameBy_eq_true_iff] at alike ⊢
  obtain ⟨parts, timeBounds, operations⟩ := alike
  rw [and_iff_right parts]
  refine and_congr ?_ ?_
  · have definiteBounds := definite.1
    generalize a.timeBounds = stated, b.timeBounds = others at timeBounds definiteBounds ⊢
    cases timeBounds with
    | none => simp
    | some related => simpa using TimeBounds.same_iff_exact related (definiteBounds _ rfl)
  · refine forall₂_iff_forall ?_ operations definite.2
    intro x y
    exact Operation.same_iff_exact

theorem decodable_congr {a b : Transaction} (alike : a.sameBy Moment.alike b = true) :
    a.Decodable ↔ b.Decodable := by
  obtain ⟨-, timeBounds, operations⟩ := sameBy_eq_true_iff.mp alike
  refine and_congr ?_ ?_
  · generalize a.timeBounds = stated, b.timeBounds = others at timeBounds ⊢
    cases timeBounds with
    | none => simp
    | some related => simpa using TimeBounds.decodable_congr related
  · refine forall_mem_congr ?_ operations
    intro x y
    exact Operation.decodable_congr

/-- A transaction of one operation and nothing optional. -/
def inflation : Transaction where
  source := .plain ⟨⟨List.replicate 32 7, rfl⟩⟩
  sequence := 1
  fee := ⟨100, by decide⟩
  timeBounds := none
  memo := .absent
  operations := [⟨none, .inflation⟩]

end Transaction

/-! ### Signatures -/

theorem Signed.lawful_codec {α : Type} {content : Codec α} {Same : α → α → Prop} {Good : α → Prop}
    (lawful : content.Lawful Same Good) :
    (Signed.codec content).Lawful
      (fun a b => Same a.content b.content ∧ a.signatures = b.signatures)
      (fun a => Good a.content) := by
  have signatures := DecoratedSignature.faithful_codec.array DecoratedSignature.wide_codec
    (some Signed.maxSignatures)
  exact Lawful.mono ((lawful.pair signatures).convert fun _ => rfl) (fun _ _ same => same)
    fun _ good => ⟨good, trivial⟩

theorem Signed.lawful_bareCodec {α : Type} {content : Codec α} {Same : α → α → Prop}
    {Good : α → Prop}
    (lawful : content.Lawful Same Good) :
    (Signed.bareCodec content).Lawful (fun a b => Same a.content b.content)
    (fun a => Good a.content) :=
  lawful.convert fun _ => rfl

theorem Signed.reads_codec {α : Type} {content : Codec α} {P : α → Prop} (reads : content.Reads P) :
    (Signed.codec content).Reads (P ·.content) :=
  (reads.pair (reads_of_forall (DecoratedSignature.codec.array _) fun _ => trivial)).convert
    fun _ parts => parts.1

/-! ### Fee bumps -/

namespace FeeBump

theorem make_eq_ok_iff {feeSource : MuxedAccount} {fee : Stroops} {inner : Signed Transaction}
    {bump : FeeBump} :
    make feeSource fee inner = .ok bump ↔
      leastFee inner.content.operations.length ≤ fee.value ∧ ⟨feeSource, fee, inner⟩ = bump := by
  simp only [make, Outcome.bind_eq_ok_iff, Outcome.pure_eq_ok_iff, checkFee]
  split_ifs with tooLow
  · simp [tooLow]
  · simp [not_lt.mp tooLow]

/-- Whether the fee is high enough for the transaction that is paid for, which has operations. -/
def WellMade (bump : FeeBump) : Prop :=
  bump.inner.content.operations ≠ [] ∧
    leastFee bump.inner.content.operations.length ≤ bump.fee.value

theorem sameBy_eq_true_iff {times : TimeRelation} {a b : FeeBump} :
    a.sameBy times b = true ↔ a.feeSource = b.feeSource ∧ a.fee = b.fee ∧
      a.inner.content.sameBy times b.inner.content = true ∧
      a.inner.signatures = b.inner.signatures := by
  simp only [sameBy, Transaction.sameSignedBy, Bool.and_eq_true, beq_iff_eq, and_assoc]

/-- The transaction that is paid for is told with its signatures. -/
theorem lawful_innerCodec :
    innerCodec.Lawful
      (fun a b => a.content.sameBy Moment.alike b.content = true ∧ a.signatures = b.signatures)
      (fun a => a.content.operations ≠ [] ∧ a.content.Decodable) := by
  apply Lawful.union faithful_int32
  intro kind arm found
  split_ifs at found with isKind
  subst isKind
  obtain rfl := Option.some.inj found
  exact ⟨(Signed.lawful_codec Transaction.lawful_codec).mono (fun _ _ same _ _ => same)
    fun _ good => good.2, fun _ _ _ _ => rfl⟩

theorem lawful_codec :
    FeeBump.codec.Lawful (fun a b => a.sameBy Moment.alike b = true)
      (fun bump => bump.WellMade ∧ bump.inner.content.Decodable) := by
  have parts := Lawful.pair MuxedAccount.faithful_codec <| Lawful.pair Stroops.faithful_codec <|
    lawful_innerCodec.pair (faithful_reserved Transaction.unknownExtension)
  refine Lawful.mono (parts.refine ?_ ?_ ?_) ?_ fun _ good => good
  · intro parts bump _ _ checked
    rcases parts with ⟨feeSource, fee, inner, _⟩
    rcases make_eq_ok_iff.mp checked with ⟨-, rfl⟩
    rfl
  · intro bump good
    exact ⟨trivial, trivial, ⟨good.1.1, good.2⟩, trivial⟩
  · intro bump parts _ good _ related
    rcases parts with ⟨feeSource, fee, inner, _⟩
    rcases related with ⟨-, rfl, ⟨same, -⟩, -⟩
    have enough := good.1.2
    refine ⟨⟨feeSource, bump.fee, inner⟩, make_eq_ok_iff.mpr ⟨?_, rfl⟩⟩
    rwa [← Transaction.length_operations_of_sameBy same]
  · intro a b related
    rcases related with ⟨feeSource, fee, ⟨inner, signatures⟩, -⟩
    exact sameBy_eq_true_iff.mpr ⟨feeSource, fee, inner, signatures⟩

theorem reads_codec :
    FeeBump.codec.Reads fun bump =>
      bump.inner.content.Decodable ∧ bump.inner.content.Every Moment.InUtc := by
  have inner : innerCodec.Reads fun a => a.content.Decodable ∧ a.content.Every Moment.InUtc := by
    apply Reads.union
    intro kind arm found
    split_ifs at found
    obtain rfl := Option.some.inj found
    exact Signed.reads_codec Transaction.reads_codec
  have parts := (reads_of_forall MuxedAccount.codec fun _ => trivial).pair <|
    (reads_of_forall Stroops.codec fun _ => trivial).pair <|
    inner.pair (reads_of_forall (Codec.reserved Transaction.unknownExtension) fun _ => trivial)
  refine parts.refine ?_
  intro (feeSource, fee, inner, _) bump every checked
  obtain ⟨-, rfl⟩ := make_eq_ok_iff.mp checked
  exact every.2.2.1

theorem same_iff_exact {a b : FeeBump} (alike : a.sameBy Moment.alike b = true)
    (definite : b.inner.content.Every Moment.Definite) :
    a.sameBy Moment.sameIfAny b = true ↔ a.inner.content.Every Moment.Exact := by
  rw [sameBy_eq_true_iff] at alike ⊢
  obtain ⟨feeSource, fee, inner, signatures⟩ := alike
  rw [and_iff_right feeSource, and_iff_right fee, and_iff_left signatures]
  exact Transaction.same_iff_exact inner definite

end FeeBump

/-! ### What is signed, and what is transmitted -/

namespace TaggedTransaction

/-- The transaction, or the one that a fee bump pays for. -/
def innermost : TaggedTransaction → Transaction
  | .transaction content => content
  | .feeBump content => content.inner.content

/-- Whether every time has a property. -/
def Every (P : Moment → Prop) (content : TaggedTransaction) : Prop := content.innermost.Every P

theorem Every.mono {P Q : Moment → Prop} (implies : ∀ m, P m → Q m) {content : TaggedTransaction}
    (every : content.Every P) : content.Every Q :=
  Transaction.Every.mono implies every

/-- Whether the transaction inside is read back as far as its times and conditions go. -/
def Decodable (content : TaggedTransaction) : Prop := content.innermost.Decodable

/-- What building checks: there are operations, and a fee bump pays enough. -/
def WellMade : TaggedTransaction → Prop
  | .transaction content => content.operations ≠ []
  | .feeBump content => content.WellMade

/-- What is signed is told by its kind and its content. -/
theorem lawful_codec :
    TaggedTransaction.codec.Lawful (fun a b => a.sameBy Moment.alike b = true)
      (fun content => content.WellMade ∧ content.Decodable) := by
  apply Lawful.union faithful_int32
  intro kind arm found
  unfold kinds at found
  split_ifs at found with isTransaction isFeeBump
  · obtain rfl := Option.some.inj found
    refine Transaction.lawful_codec.toArm ?_ (fun _ _ _ _ => isTransaction.symm)
      (fun _ _ _ _ same => same) (fun _ _ good => good)
    intro tagged content
    cases tagged <;> simp [transaction?, eq_comm]
  · obtain rfl := Option.some.inj found
    refine FeeBump.lawful_codec.toArm ?_ (fun _ _ _ _ => isFeeBump.symm)
      (fun _ _ _ _ same => same) (fun _ _ good => good)
    intro tagged content
    cases tagged <;> simp [feeBump?, eq_comm]

theorem reads_codec :
    TaggedTransaction.codec.Reads fun content =>
      content.Decodable ∧ content.Every Moment.InUtc := by
  apply Reads.union
  intro kind arm found
  unfold kinds at found
  split_ifs at found
  · obtain rfl := Option.some.inj found
    exact Transaction.reads_codec.arm fun _ every => every
  · obtain rfl := Option.some.inj found
    exact FeeBump.reads_codec.arm fun _ every => every

/-- A content is the same as one with the same Unix times and definite times exactly if these stand
for its own times. -/
theorem same_iff_exact {a b : TaggedTransaction} (alike : a.sameBy Moment.alike b = true)
    (definite : b.Every Moment.Definite) : a.same b = true ↔ a.Every Moment.Exact := by
  cases a with
  | transaction content =>
    cases b with
    | transaction other => exact Transaction.same_iff_exact alike definite
    | feeBump other => cases alike
  | feeBump content =>
    cases b with
    | transaction other => cases alike
    | feeBump other => exact FeeBump.same_iff_exact alike definite

theorem innermost_sameBy {times : TimeRelation} {a b : TaggedTransaction}
    (same : a.sameBy times b = true) : a.innermost.sameBy times b.innermost = true := by
  cases a with
  | transaction content =>
    cases b with
    | transaction other => exact same
    | feeBump other => cases same
  | feeBump content =>
    cases b with
    | transaction other => cases same
    | feeBump other => exact (FeeBump.sameBy_eq_true_iff.mp same).2.2.1

theorem decodable_congr {a b : TaggedTransaction} (alike : a.sameBy Moment.alike b = true) :
    a.Decodable ↔ b.Decodable :=
  Transaction.decodable_congr (innermost_sameBy alike)

end TaggedTransaction

theorem Envelope.sameBy_eq_true_iff {times : TimeRelation} {a b : Envelope} :
    Envelope.sameBy times a b = true ↔
      a.content.sameBy times b.content = true ∧ a.signatures = b.signatures := by
  rw [Envelope.sameBy, Bool.and_eq_true, beq_iff_eq]

/-- An envelope is told by its content and its signatures. -/
theorem Envelope.lawful_codec :
    Envelope.codec.Lawful (fun a b => Envelope.sameBy Moment.alike a b = true)
      (fun envelope => envelope.content.WellMade ∧ envelope.content.Decodable) := by
  refine (Signed.lawful_codec TaggedTransaction.lawful_codec).mono ?_ fun _ good => good
  intro a b related
  exact Envelope.sameBy_eq_true_iff.mpr related

theorem Envelope.reads_codec :
    Envelope.codec.Reads fun envelope =>
      envelope.content.Decodable ∧ envelope.content.Every Moment.InUtc :=
  Signed.reads_codec TaggedTransaction.reads_codec

theorem Envelope.same_iff_exact {a b : Envelope} (alike : Envelope.sameBy Moment.alike a b = true)
    (definite : b.content.Every Moment.Definite) :
    Envelope.same a b = true ↔ a.content.Every Moment.Exact := by
  rw [Envelope.sameBy_eq_true_iff] at alike
  rw [Envelope.same, Envelope.sameBy_eq_true_iff, and_iff_left alike.2]
  exact TaggedTransaction.same_iff_exact alike.1 definite

theorem Envelope.decodable_congr {a b : Envelope}
    (alike : Envelope.sameBy Moment.alike a b = true) :
    a.content.Decodable ↔ b.content.Decodable :=
  TaggedTransaction.decodable_congr (Envelope.sameBy_eq_true_iff.mp alike).1

end LedgerWire
