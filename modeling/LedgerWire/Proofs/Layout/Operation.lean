import LedgerWire.Operation.Basic
import LedgerWire.Proofs.Layout.Asset
import LedgerWire.Proofs.Layout.Claim

/-!
Contract: the layouts of operations. All kinds but one are faithful; the balances that wait to be
claimed are told and read back as far as the conditions on their claims are.

Owns:
- one lemma for the layout of each kind of operation;
- `Operation.Every`, a property of all deadlines, and `Operation.Decodable`;
- the law of `Operation.codec`, up to equality of Unix times, and when an operation is the same as
  another one that has the same Unix times.

Does not own: transactions.
-/

namespace LedgerWire

open Wire Codec

/-! ### Kinds without deadlines -/

theorem CreateAccount.faithful_codec : CreateAccount.codec.Faithful :=
  (PublicKey.faithful_codec.pair Stroops.faithful_codec).convert (fun _ => rfl) (fun _ => rfl)

theorem SetOptions.faithful_codec : SetOptions.codec.Faithful :=
  (PublicKey.faithful_codec.optional.pair <|
    AccountFlags.faithful_codec.optional.pair <|
    AccountFlags.faithful_codec.optional.pair <|
    faithful_uint32.optional.pair <|
    faithful_uint32.optional.pair <|
    faithful_uint32.optional.pair <|
    faithful_uint32.optional.pair <|
    (faithful_text _).optional.pair
      Signer.faithful_codec.optional).convert (fun _ => rfl) (fun _ => rfl)

theorem ManageData.faithful_codec : ManageData.codec.Faithful :=
  ((faithful_text _).pair DataValue.faithful_codec.optional).convert (fun _ => rfl) (fun _ => rfl)

theorem Payment.faithful_codec : Payment.codec.Faithful :=
  (MuxedAccount.faithful_codec.pair (Asset.faithful_codec.pair Stroops.faithful_codec)).convert
    (fun _ => rfl) (fun _ => rfl)

theorem PathPayment.faithful_codec : PathPayment.codec.Faithful :=
  (Asset.faithful_codec.pair <|
    Stroops.faithful_codec.pair <|
    MuxedAccount.faithful_codec.pair <|
    Asset.faithful_codec.pair <|
    Stroops.faithful_codec.pair <|
    Asset.faithful_codec.array Asset.wide_codec _).convert (fun _ => rfl) (fun _ => rfl)

theorem OfferTerms.faithful_codec : OfferTerms.codec.Faithful :=
  (Asset.faithful_codec.pair (Asset.faithful_codec.pair
    (Stroops.faithful_codec.pair Price.faithful_codec))).convert (fun _ => rfl) (fun _ => rfl)

/-- Zero stands for no offer, and for no other offer. -/
theorem OfferId.faithful_optionalCodec : OfferId.optionalCodec.Faithful := by
  apply faithful_int64.convert
  · intro n
    rw [OfferId.ofInt?]
    split
    · exact Eq.symm ‹n = 0›
    · rfl
  · intro id?
    cases id? with
    | none => rfl
    | some id => simp [OfferId.ofInt?, id.ne_zero]

theorem ManageOffer.faithful_codec : ManageOffer.codec.Faithful :=
  (OfferTerms.faithful_codec.pair OfferId.faithful_optionalCodec).convert (fun _ => rfl)
    (fun _ => rfl)

/-- Zero stands for no limit, and for no other limit. -/
theorem TrustLimit.faithful_optionalCodec : TrustLimit.optionalCodec.Faithful := by
  apply Stroops.faithful_codec.convert
  · intro stroops
    rcases stroops with ⟨value, inRange⟩
    rw [TrustLimit.ofStroops?]
    split_ifs with isZero
    · subst isZero
      rfl
    · rfl
  · intro limit?
    cases limit? with
    | none => rfl
    | some limit => simp [TrustLimit.ofStroops?, TrustLimit.stroopsOf, limit.ne_zero]

theorem ChangeTrust.faithful_codec : ChangeTrust.codec.Faithful :=
  (ChangeTrustAsset.faithful_codec.pair TrustLimit.faithful_optionalCodec).convert (fun _ => rfl)
    (fun _ => rfl)

theorem AllowTrust.faithful_codeCodec : AllowTrust.codeCodec.Faithful := by
  apply Faithful.union faithful_int32
  intro form arm found
  split_ifs at found with isOneOfTwo
  obtain rfl := Option.some.inj found
  have isForm : form = 1 ∨ form = 2 := by simpa using isOneOfTwo
  refine ⟨(AssetCode.faithful_codec isForm).mono (fun _ _ same _ _ => same) fun _ _ => trivial, ?_⟩
  intro cursor code after read
  rcases (AssetCode.faithful_codec isForm).canonical read with ⟨_, -, written, -⟩
  exact AssetCode.formNumber_of_write isForm written

theorem AllowTrust.faithful_codec : AllowTrust.codec.Faithful :=
  (PublicKey.faithful_codec.pair
    (AllowTrust.faithful_codeCodec.pair TrustLineFlags.faithful_codec)).convert
      (fun _ => rfl) (fun _ => rfl)

theorem SetTrustLineFlags.faithful_codec : SetTrustLineFlags.codec.Faithful :=
  (PublicKey.faithful_codec.pair <|
    Asset.faithful_codec.pair <|
    TrustLineFlags.faithful_codec.pair TrustLineFlags.faithful_codec).convert
      (fun _ => rfl) (fun _ => rfl)

theorem Clawback.faithful_codec : Clawback.codec.Faithful :=
  (Asset.faithful_codec.pair (MuxedAccount.faithful_codec.pair Stroops.faithful_codec)).convert
    (fun _ => rfl) (fun _ => rfl)

theorem PoolDeposit.faithful_codec : PoolDeposit.codec.Faithful :=
  (LiquidityPoolId.faithful_codec.pair <|
    Stroops.faithful_codec.pair <|
    Stroops.faithful_codec.pair <|
    Price.faithful_codec.pair Price.faithful_codec).convert (fun _ => rfl) (fun _ => rfl)

theorem PoolWithdraw.faithful_codec : PoolWithdraw.codec.Faithful :=
  (LiquidityPoolId.faithful_codec.pair <|
    Stroops.faithful_codec.pair <|
    Stroops.faithful_codec.pair Stroops.faithful_codec).convert (fun _ => rfl) (fun _ => rfl)

theorem RevokeTarget.faithful_codec : RevokeTarget.codec.Faithful := by
  apply Faithful.union faithful_int32
  intro kind arm found
  unfold RevokeTarget.kinds at found
  split_ifs at found with isEntry isSigner
  · obtain rfl := Option.some.inj found
    refine LedgerKey.faithful_codec.toArm ?_ fun _ _ _ => isEntry.symm
    intro target key
    cases target <;> simp [RevokeTarget.ledgerKey?, eq_comm]
  · obtain rfl := Option.some.inj found
    refine (PublicKey.faithful_codec.pair SignerKey.faithful_codec).toArm ?_ fun _ _ _ =>
      isSigner.symm
    intro target signer
    rcases signer with ⟨account, key⟩
    cases target <;> simp [RevokeTarget.signer?, eq_comm]

/-! ### Balances that wait to be claimed -/

/-- Where one relation of elements means another one just for those on the left that have a
property, so it does for lists one by one. -/
theorem forall₂_iff_forall {α : Type} {Alike Same : α → α → Prop} {P Q : α → Prop}
    (same_iff : ∀ x y, Alike x y → Q y → (Same x y ↔ P x)) {xs ys : List α}
    (alike : List.Forall₂ Alike xs ys) (every : ∀ y ∈ ys, Q y) :
    List.Forall₂ Same xs ys ↔ ∀ x ∈ xs, P x := by
  induction alike with
  | nil => simp
  | cons first rest inductionHypothesis =>
    obtain ⟨head, tail⟩ := List.forall_mem_cons.mp every
    rw [List.forall₂_cons, List.forall_mem_cons, same_iff _ _ first head, inductionHypothesis tail]

/-- Where related elements have or have not a property together, so do all those of related
lists. -/
theorem forall_mem_congr {α : Type} {Alike : α → α → Prop} {P : α → Prop}
    (congr : ∀ x y, Alike x y → (P x ↔ P y)) {xs ys : List α} (alike : List.Forall₂ Alike xs ys) :
    (∀ x ∈ xs, P x) ↔ ∀ y ∈ ys, P y := by
  induction alike with
  | nil => simp
  | cons first rest inductionHypothesis =>
    rw [List.forall_mem_cons, List.forall_mem_cons, congr _ _ first, inductionHypothesis]

theorem Claimant.lawful_codec :
    Claimant.codec.Lawful (fun a b => a.sameBy Moment.alike b = true)
      (fun a => a.predicate.Decodable) := by
  apply Lawful.union faithful_int32
  intro kind arm found
  split_ifs at found with isKind
  subst isKind
  obtain rfl := Option.some.inj found
  have parts := Lawful.pair PublicKey.faithful_codec ClaimPredicate.lawful_codec
  refine ⟨Lawful.mono (parts.convert fun _ => rfl) ?_ fun _ good => ⟨trivial, good.2⟩,
    fun _ _ _ _ => rfl⟩
  intro a b related _ _
  simpa [Claimant.sameBy] using related

theorem Claimant.wide_codec : Claimant.codec.Wide := Wide.union (wide_integer .int32)

theorem Claimant.reads_codec :
    Claimant.codec.Reads fun a => a.predicate.Decodable ∧ a.predicate.Every Moment.InUtc := by
  apply Reads.union
  intro kind arm found
  split_ifs at found
  obtain rfl := Option.some.inj found
  exact ((reads_of_forall PublicKey.codec fun _ => trivial).pair ClaimPredicate.reads_codec).convert
    fun _ parts => parts.2

theorem Claimant.same_iff_exact {a b : Claimant} (alike : a.sameBy Moment.alike b = true)
    (definite : b.predicate.Every Moment.Definite) :
    a.sameBy Moment.sameIfAny b = true ↔ a.predicate.Every Moment.Exact := by
  rw [Claimant.sameBy, Bool.and_eq_true] at alike
  rw [Claimant.sameBy, Bool.and_eq_true, ClaimPredicate.same_iff_exact alike.2 definite]
  exact and_iff_right alike.1

theorem Claimant.decodable_congr {a b : Claimant} (alike : a.sameBy Moment.alike b = true) :
    a.predicate.Decodable ↔ b.predicate.Decodable := by
  rw [Claimant.sameBy, Bool.and_eq_true] at alike
  exact ClaimPredicate.decodable_congr alike.2

namespace CreateClaimableBalance

/-- Such operations are the same if they agree in asset and amount, and the claimants are the same
one by one. -/
theorem sameBy_eq_true_iff {times : TimeRelation} {a b : CreateClaimableBalance} :
    a.sameBy times b = true ↔ a.asset = b.asset ∧ a.amount = b.amount ∧
      List.Forall₂ (fun x y => x.sameBy times y = true) a.claimants b.claimants := by
  simp only [sameBy, Bool.and_eq_true, beq_iff_eq, List.all_eq_true, List.forall₂_iff_zip,
    Prod.forall, and_assoc]

/-- A claimable balance is the asset, the amount and the claimants. -/
theorem lawful_codec :
    CreateClaimableBalance.codec.Lawful (fun a b => a.sameBy Moment.alike b = true)
      (fun a => ∀ claimant ∈ a.claimants, claimant.predicate.Decodable) := by
  have parts := Lawful.pair Asset.faithful_codec <| Lawful.pair Stroops.faithful_codec <|
    Claimant.lawful_codec.array Claimant.wide_codec (some maxClaimants)
  refine Lawful.mono (parts.convert fun _ => rfl) ?_ fun _ good => ⟨trivial, trivial, good⟩
  intro a b related
  exact sameBy_eq_true_iff.mpr related

theorem reads_codec :
    CreateClaimableBalance.codec.Reads fun a =>
      ∀ claimant ∈ a.claimants, claimant.predicate.Decodable ∧
      claimant.predicate.Every Moment.InUtc :=
  ((reads_of_forall Asset.codec fun _ => trivial).pair <|
    (reads_of_forall Stroops.codec fun _ => trivial).pair <| Claimant.reads_codec.array _).convert
      fun _ parts => parts.2.2

theorem sameBy_self {times : TimeRelation} (reflexive : ∀ moment?, times moment? moment? = true)
    (body : CreateClaimableBalance) : body.sameBy times body = true := by
  refine sameBy_eq_true_iff.mpr ⟨rfl, rfl, List.forall₂_same.mpr ?_⟩
  intro claimant _
  simp [Claimant.sameBy, ClaimPredicate.sameBy_self reflexive]

theorem same_iff_exact {a b : CreateClaimableBalance} (alike : a.sameBy Moment.alike b = true)
    (definite : ∀ claimant ∈ b.claimants, claimant.predicate.Every Moment.Definite) :
    a.sameBy Moment.sameIfAny b = true ↔
      ∀ claimant ∈ a.claimants, claimant.predicate.Every Moment.Exact := by
  rw [sameBy_eq_true_iff] at alike ⊢
  rw [and_iff_right alike.1, and_iff_right alike.2.1]
  refine forall₂_iff_forall ?_ alike.2.2 definite
  intro x y
  exact Claimant.same_iff_exact

end CreateClaimableBalance

/-! ### All kinds -/

namespace OperationBody

/-- Whether every condition on a claim has a property. -/
def EveryCondition (P : ClaimPredicate → Prop) : OperationBody → Prop
  | .createClaimableBalance body => ∀ claimant ∈ body.claimants, P claimant.predicate
  | _ => True

/-- Whether every deadline has a property. -/
def Every (P : Moment → Prop) (body : OperationBody) : Prop := body.EveryCondition (·.Every P)

/-- Whether a body is read back: only conditions on claims stand in the way. -/
def Decodable (body : OperationBody) : Prop := body.EveryCondition ClaimPredicate.Decodable

theorem EveryCondition.mono {P Q : ClaimPredicate → Prop}
    (implies : ∀ predicate, P predicate → Q predicate)
    {body : OperationBody} (every : body.EveryCondition P) : body.EveryCondition Q := by
  cases body with
  | createClaimableBalance body => exact fun claimant member => implies _ (every claimant member)
  | _ => exact trivial

theorem sameBy_self {times : TimeRelation} (reflexive : ∀ moment?, times moment? moment? = true)
    (body : OperationBody) : body.sameBy times body = true := by
  cases body with
  | createClaimableBalance body => exact body.sameBy_self reflexive
  | _ => exact beq_self_eq_true _

private theorem arm_of_faithful {Content : Type} {content : Codec Content}
    (faithful : content.Faithful)
    {build : Content → OperationBody} {view? : OperationBody → Option Content}
    {kind : OperationKind}
    (kind_build : ∀ x, (build x).kind = kind)
    (view_eq_some : ∀ y x, view? y = some x ↔ build x = y) :
    (content.arm build view?).Arm (fun body => body.kind.number) kind.number
      (fun a b => a.sameBy Moment.alike b = true) Decodable := by
  have arm : (content.arm build view?).FaithfulArm (fun body => body.kind.number) kind.number :=
    faithful.toArm view_eq_some fun x _ _ => congrArg OperationKind.number (kind_build x)
  refine arm.mono ?_ fun _ _ => trivial
  intro body other same
  subst same
  exact body.sameBy_self Moment.alike_self

/-- The layout of every kind is lawful among the bodies of the kind. -/
theorem arm_codecOf (kind : OperationKind) :
    (codecOf kind).Arm (fun body => body.kind.number) kind.number
      (fun a b => a.sameBy Moment.alike b = true) Decodable := by
  -- Every case is left with what its view shows of a body, and all of these close alike.
  cases kind
  case' createClaimableBalance =>
    refine CreateClaimableBalance.lawful_codec.toArm (fun body x => ?_) (fun _ _ _ _ => rfl)
      (fun _ _ _ _ same => same) (fun _ _ good => good)
  case' createAccount =>
    refine arm_of_faithful CreateAccount.faithful_codec (fun _ => rfl) fun body x => ?_
  case' payment => refine arm_of_faithful Payment.faithful_codec (fun _ => rfl) fun body x => ?_
  case' pathPaymentStrictReceive =>
    refine arm_of_faithful PathPayment.faithful_codec (fun _ => rfl) fun body x => ?_
  case' manageSellOffer =>
    refine arm_of_faithful ManageOffer.faithful_codec (fun _ => rfl) fun body x => ?_
  case' createPassiveSellOffer =>
    refine arm_of_faithful OfferTerms.faithful_codec (fun _ => rfl) fun body x => ?_
  case' setOptions =>
    refine arm_of_faithful SetOptions.faithful_codec (fun _ => rfl) fun body x => ?_
  case' changeTrust =>
    refine arm_of_faithful ChangeTrust.faithful_codec (fun _ => rfl) fun body x => ?_
  case' allowTrust =>
    refine arm_of_faithful AllowTrust.faithful_codec (fun _ => rfl) fun body x => ?_
  case' accountMerge =>
    refine arm_of_faithful MuxedAccount.faithful_codec (fun _ => rfl) fun body x => ?_
  case' inflation => refine arm_of_faithful faithful_nothing (fun _ => rfl) fun body x => ?_
  case' manageData =>
    refine arm_of_faithful ManageData.faithful_codec (fun _ => rfl) fun body x => ?_
  case' bumpSequence => refine arm_of_faithful faithful_int64 (fun _ => rfl) fun body x => ?_
  case' manageBuyOffer =>
    refine arm_of_faithful ManageOffer.faithful_codec (fun _ => rfl) fun body x => ?_
  case' pathPaymentStrictSend =>
    refine arm_of_faithful PathPayment.faithful_codec (fun _ => rfl) fun body x => ?_
  case' claimClaimableBalance =>
    refine arm_of_faithful ClaimableBalanceId.faithful_codec (fun _ => rfl) fun body x => ?_
  case' beginSponsoring =>
    refine arm_of_faithful PublicKey.faithful_codec (fun _ => rfl) fun body x => ?_
  case' endSponsoring => refine arm_of_faithful faithful_nothing (fun _ => rfl) fun body x => ?_
  case' revokeSponsorship =>
    refine arm_of_faithful RevokeTarget.faithful_codec (fun _ => rfl) fun body x => ?_
  case' clawback => refine arm_of_faithful Clawback.faithful_codec (fun _ => rfl) fun body x => ?_
  case' clawbackClaimableBalance =>
    refine arm_of_faithful ClaimableBalanceId.faithful_codec (fun _ => rfl) fun body x => ?_
  case' setTrustLineFlags =>
    refine arm_of_faithful SetTrustLineFlags.faithful_codec (fun _ => rfl) fun body x => ?_
  case' poolDeposit =>
    refine arm_of_faithful PoolDeposit.faithful_codec (fun _ => rfl) fun body x => ?_
  case' poolWithdraw =>
    refine arm_of_faithful PoolWithdraw.faithful_codec (fun _ => rfl) fun body x => ?_
  all_goals cases body <;> simp [eq_comm]

theorem kind_eq_of_sameBy {times : TimeRelation} {a b : OperationBody}
    (same : a.sameBy times b = true) :
    a.kind = b.kind := by
  unfold sameBy at same
  split at same
  · rfl
  · rw [eq_of_beq same]

/-- A body is the number of its kind and what the kind carries. -/
theorem lawful_codec :
    OperationBody.codec.Lawful (fun a b => a.sameBy Moment.alike b = true) Decodable := by
  apply Lawful.union faithful_int32
  intro number arm found
  rcases Option.map_eq_some_iff.mp found with ⟨kind, isKind, rfl⟩
  rw [← OperationKind.number_eq_of_ofNumber? isKind]
  exact arm_codecOf kind

/-- Only bodies of one kind have conditions, and those that are read are as their layout has
them. -/
theorem reads_codec : OperationBody.codec.Reads fun body =>
    body.Decodable ∧ body.Every Moment.InUtc := by
  apply Reads.union
  intro number arm found
  rcases Option.map_eq_some_iff.mp found with ⟨kind, isKind, rfl⟩
  by_cases claimable : kind = .createClaimableBalance
  · subst claimable
    exact CreateClaimableBalance.reads_codec.arm fun _ => forall₂_and.mp
  · intro cursor body after read
    have sameNumber := (arm_codecOf kind).tag_of_read read
    cases body with
    | createClaimableBalance body =>
      have sameKind := congrArg OperationKind.ofNumber? sameNumber
      rw [OperationKind.ofNumber?_number, OperationKind.ofNumber?_number] at sameKind
      exact absurd (Option.some.inj sameKind).symm claimable
    | _ => exact ⟨trivial, trivial⟩

theorem same_iff_exact {a b : OperationBody} (alike : a.sameBy Moment.alike b = true)
    (definite : b.Every Moment.Definite) :
    a.sameBy Moment.sameIfAny b = true ↔ a.Every Moment.Exact := by
  unfold sameBy at alike
  split at alike
  · exact CreateClaimableBalance.same_iff_exact alike definite
  · rename_i other
    obtain rfl := eq_of_beq alike
    refine iff_of_true (sameBy_self Moment.sameIfAny_self a) ?_
    cases a with
    | createClaimableBalance body => exact absurd rfl (other body body rfl)
    | _ => exact trivial

theorem decodable_congr {a b : OperationBody} (alike : a.sameBy Moment.alike b = true) :
    a.Decodable ↔ b.Decodable := by
  unfold sameBy at alike
  split at alike
  · refine forall_mem_congr ?_ (CreateClaimableBalance.sameBy_eq_true_iff.mp alike).2.2
    intro x y
    exact Claimant.decodable_congr
  · rw [eq_of_beq alike]

end OperationBody

namespace Operation

/-- Whether every deadline has a property. -/
def Every (P : Moment → Prop) (operation : Operation) : Prop := operation.body.Every P

def Decodable (operation : Operation) : Prop := operation.body.Decodable

theorem Every.mono {P Q : Moment → Prop} (implies : ∀ m, P m → Q m) {operation : Operation}
    (every : operation.Every P) : operation.Every Q :=
  OperationBody.EveryCondition.mono (fun _ each => each.mono implies) every

theorem lawful_codec :
    Operation.codec.Lawful (fun a b => a.sameBy Moment.alike b = true) Decodable := by
  have parts := Lawful.pair MuxedAccount.faithful_codec.optional OperationBody.lawful_codec
  refine Lawful.mono (parts.convert fun _ => rfl) ?_ fun _ good => ⟨trivial, good⟩
  intro a b related
  simpa [sameBy] using related

theorem reads_codec :
    Operation.codec.Reads fun operation => operation.Decodable ∧ operation.Every Moment.InUtc :=
  ((reads_of_forall MuxedAccount.codec.optional fun _ => trivial).pair
    OperationBody.reads_codec).convert
    fun _ parts => parts.2

theorem same_iff_exact {a b : Operation} (alike : a.sameBy Moment.alike b = true)
    (definite : b.Every Moment.Definite) :
    a.sameBy Moment.sameIfAny b = true ↔ a.Every Moment.Exact := by
  rw [sameBy, Bool.and_eq_true] at alike
  rw [sameBy, Bool.and_eq_true, OperationBody.same_iff_exact alike.2 definite]
  exact and_iff_right alike.1

theorem decodable_congr {a b : Operation} (alike : a.sameBy Moment.alike b = true) :
    a.Decodable ↔ b.Decodable := by
  rw [sameBy, Bool.and_eq_true] at alike
  exact OperationBody.decodable_congr alike.2

theorem wide_codec : Operation.codec.Wide := ((wide_optional _).pair _).convert _ _

/-- Operations of one kind are those of all kinds, of which the others are not read back. -/
theorem lawful_codecOf (kind : OperationKind) :
    (codecOf kind).Lawful (fun a b => a.sameBy Moment.alike b = true)
      (fun operation => operation.kind = kind ∧ operation.Decodable) := by
  refine lawful_codec.refine ?_ (fun _ good => good.2) ?_
  · intro operation accepted _ _ checked
    split_ifs at checked
    cases checked
    rfl
  · intro operation other _ good _ sameOperation
    have sameKind : operation.body.kind = other.body.kind := by
      simp only [id, sameBy, Bool.and_eq_true] at sameOperation
      exact OperationBody.kind_eq_of_sameBy sameOperation.2
    exact ⟨other, if_pos (sameKind.symm.trans good.1)⟩

end Operation

end LedgerWire
