import LedgerWire.Proofs.Layout.Writable
import LedgerWire.Proofs.Operation.Lifecycle

/-!
Contract: which operations can be written. Some limits are those that are checked when an operation
is built; others stand with parts that are put into it as they are, and nothing checks those.

Owns:
- `OperationBody.LimitsKept`, the limits that are checked, and `OperationBody.PartsFit`, those that
  are not;
- the condition for an operation to be written, and for one that was built.

Does not own: transactions.
-/

namespace LedgerWire

open Wire Codec

/-! ### Limits -/

namespace OperationBody

/-- The limits that are checked when an operation is built. -/
def LimitsKept : OperationBody → Prop
  | .pathPaymentStrictReceive body | .pathPaymentStrictSend body =>
    body.path.length ≤ PathPayment.maxPathLength
  | .setOptions body => body.LimitsKept
  | .manageData body => Text.Utf8.size body.name ≤ ManageData.maxNameSize
  | .createClaimableBalance body => body.claimants.length ≤ CreateClaimableBalance.maxClaimants
  | _ => True

/-- The limits that nothing checks: the id of an offer, the weight of a signer, the fee of a pool,
the sequence number to bump to, and those of a ledger key. -/
def PartsFit : OperationBody → Prop
  | .manageSellOffer body | .manageBuyOffer body => ∀ id ∈ body.offerId, Integer.int64.Fits id.value
  | .setOptions body => ∀ signer ∈ body.signer, signer.Fits
  | .changeTrust body => ChangeTrustAsset.Fits body.line
  | .bumpSequence bumpTo => Integer.int64.Fits bumpTo
  | .revokeSponsorship (.entry key) => key.Fits
  | _ => True

/-! ### Bodies -/

theorem writable_codec_of_kind (body : OperationBody) :
    OperationBody.codec.Writable body ↔ (codecOf body.kind).Writable body := by
  have fits : Integer.int32.Fits body.kind.number := by
    cases body.kind <;> decide
  refine writable_union body.kind.number rfl fits ?_
  rw [OperationKind.ofNumber?_number]
  rfl

end OperationBody

theorem OfferTerms.writable_codec (terms : OfferTerms) : OfferTerms.codec.Writable terms :=
  writable_pair.mpr ⟨terms.selling.writable_codec, writable_pair.mpr ⟨terms.buying.writable_codec,
    writable_pair.mpr ⟨terms.amount.writable_codec, terms.price.writable_codec⟩⟩⟩

theorem ManageOffer.writable_codec_iff {offer : ManageOffer} :
    ManageOffer.codec.Writable offer ↔ ∀ id ∈ offer.offerId, Integer.int64.Fits id.value := by
  rw [ManageOffer.codec, writable_convert, writable_pair, OfferId.optionalCodec, writable_convert,
    writable_int64]
  refine (and_iff_right offer.terms.writable_codec).trans ?_
  cases offer.offerId with
  | none => exact iff_of_true (show Integer.int64.Fits 0 by decide) nofun
  | some id => simp

theorem PathPayment.writable_codec_iff {body : PathPayment} :
    PathPayment.codec.Writable body ↔ body.path.length ≤ PathPayment.maxPathLength := by
  simp only [PathPayment.codec, writable_convert, writable_pair,
    writable_array PathPayment.maxPathLength (by decide), Nat.cast_le]
  simp [Asset.writable_codec, Stroops.writable_codec, MuxedAccount.writable_codec]

theorem SetOptions.writable_codec_iff {options : SetOptions} :
    SetOptions.codec.Writable options ↔ options.LimitsKept ∧ ∀ signer ∈ options.signer,
      signer.Fits := by
  simp only [SetOptions.codec, writable_convert, writable_pair, writable_optional, writable_uint32,
    writable_text SetOptions.maxHomeDomainSize (by decide), Nat.cast_le, Signer.writable_codec_iff]
  constructor
  · intro parts
    obtain ⟨-, -, -, master, low, medium, high, domain, signer⟩ := parts
    exact ⟨⟨master, low, medium, high, domain⟩, signer⟩
  · intro parts
    obtain ⟨⟨master, low, medium, high, domain⟩, signer⟩ := parts
    exact ⟨fun key _ => key.writable_codec, fun flags _ => flags.writable_codec,
      fun flags _ => flags.writable_codec, master, low, medium, high, domain, signer⟩

theorem CreateClaimableBalance.writable_codec_iff {body : CreateClaimableBalance} :
    CreateClaimableBalance.codec.Writable body ↔
      body.claimants.length ≤ CreateClaimableBalance.maxClaimants := by
  simp only [CreateClaimableBalance.codec, writable_convert, writable_pair,
    writable_array CreateClaimableBalance.maxClaimants (by decide), Nat.cast_le]
  constructor
  · intro parts
    exact parts.2.2.1
  · intro few
    exact ⟨body.asset.writable_codec, body.amount.writable_codec, few,
      fun claimant _ => claimant.writable_codec⟩

theorem RevokeTarget.writable_codec_signer (account : PublicKey) (key : SignerKey) :
    RevokeTarget.codec.Writable (.signer account key) :=
  Iff.mpr (writable_kind 1 rfl (by decide) rfl rfl)
    (writable_pair.mpr ⟨account.writable_codec, key.writable_codec⟩)

theorem RevokeTarget.writable_codec_entry_iff {key : LedgerKey} :
    RevokeTarget.codec.Writable (.entry key) ↔ key.Fits :=
  Iff.trans (writable_kind 0 rfl (by decide) rfl rfl) LedgerKey.writable_codec_iff

theorem AllowTrust.writable_codec (body : AllowTrust) : AllowTrust.codec.Writable body := by
  have found : (if body.code.formNumber = 1 || body.code.formNumber = 2 then
      some (AssetCode.codec body.code.formNumber) else none) =
        some (AssetCode.codec body.code.formNumber) := by
    rcases body.code.formNumber_eq_or with number | number <;> rw [number] <;> rfl
  have fits : Integer.int32.Fits body.code.formNumber := by
    rcases body.code.formNumber_eq_or with number | number <;> rw [number] <;> decide
  have code : AllowTrust.codeCodec.Writable body.code :=
    Iff.mpr (writable_union _ rfl fits found) body.code.writable_codec
  exact writable_pair.mpr ⟨body.trustor.writable_codec,
    writable_pair.mpr ⟨code, body.authorize.writable_codec⟩⟩

namespace OperationBody

/-- A body is written if its limits are kept, those that are checked and those that are not. -/
theorem writable_codec_iff {body : OperationBody} :
    OperationBody.codec.Writable body ↔ body.LimitsKept ∧ body.PartsFit := by
  rw [writable_codec_of_kind]
  cases body with
  | createAccount body =>
    refine iff_of_true (Iff.mpr (writable_arm rfl) ?_) ⟨trivial, trivial⟩
    exact writable_pair.mpr ⟨body.destination.writable_codec, body.startingBalance.writable_codec⟩
  | payment body =>
    refine iff_of_true (Iff.mpr (writable_arm rfl) ?_) ⟨trivial, trivial⟩
    exact writable_pair.mpr ⟨body.destination.writable_codec,
      writable_pair.mpr ⟨body.asset.writable_codec, body.amount.writable_codec⟩⟩
  | pathPaymentStrictReceive body | pathPaymentStrictSend body =>
    refine Iff.trans (writable_arm rfl) (PathPayment.writable_codec_iff.trans ?_)
    exact (and_iff_left trivial).symm
  | manageSellOffer body | manageBuyOffer body =>
    refine Iff.trans (writable_arm rfl) (ManageOffer.writable_codec_iff.trans ?_)
    exact (and_iff_right trivial).symm
  | createPassiveSellOffer terms =>
    exact iff_of_true (Iff.mpr (writable_arm rfl) terms.writable_codec) ⟨trivial, trivial⟩
  | setOptions body => exact Iff.trans (writable_arm rfl) SetOptions.writable_codec_iff
  | changeTrust body =>
    refine Iff.trans (writable_arm rfl) ?_
    rw [ChangeTrust.codec, writable_convert, writable_pair, ChangeTrustAsset.writable_codec_iff]
    exact (and_iff_left (Stroops.writable_codec _)).trans (and_iff_right trivial).symm
  | allowTrust body =>
    exact iff_of_true (Iff.mpr (writable_arm rfl) body.writable_codec) ⟨trivial, trivial⟩
  | accountMerge destination =>
    exact iff_of_true (Iff.mpr (writable_arm rfl) destination.writable_codec) ⟨trivial, trivial⟩
  | inflation | endSponsoring =>
    exact iff_of_true (Iff.mpr (writable_arm rfl) (writable_nothing ())) ⟨trivial, trivial⟩
  | manageData body =>
    refine Iff.trans (writable_arm rfl) ?_
    rw [ManageData.codec, writable_convert, writable_pair, writable_text _ (by decide), Nat.cast_le,
      writable_optional]
    exact and_congr_right fun _ => iff_of_true (fun value _ => value.writable_codec) trivial
  | bumpSequence bumpTo =>
    refine Iff.trans (writable_arm rfl) (writable_int64.trans ?_)
    exact (and_iff_right trivial).symm
  | createClaimableBalance body =>
    refine Iff.trans (writable_arm rfl) (CreateClaimableBalance.writable_codec_iff.trans ?_)
    exact (and_iff_left trivial).symm
  | claimClaimableBalance id | clawbackClaimableBalance id =>
    exact iff_of_true (Iff.mpr (writable_arm rfl) id.writable_codec) ⟨trivial, trivial⟩
  | beginSponsoring sponsored =>
    exact iff_of_true (Iff.mpr (writable_arm rfl) sponsored.writable_codec) ⟨trivial, trivial⟩
  | revokeSponsorship target =>
    refine Iff.trans (writable_arm rfl) ?_
    cases target with
    | entry key => exact RevokeTarget.writable_codec_entry_iff.trans (and_iff_right trivial).symm
    | signer account key =>
      exact iff_of_true (RevokeTarget.writable_codec_signer account key) ⟨trivial, trivial⟩
  | clawback body =>
    refine iff_of_true (Iff.mpr (writable_arm rfl) ?_) ⟨trivial, trivial⟩
    exact writable_pair.mpr ⟨body.asset.writable_codec,
      writable_pair.mpr ⟨body.holder.writable_codec, body.amount.writable_codec⟩⟩
  | setTrustLineFlags body =>
    refine iff_of_true (Iff.mpr (writable_arm rfl) ?_) ⟨trivial, trivial⟩
    exact writable_pair.mpr ⟨body.trustor.writable_codec,
      writable_pair.mpr ⟨body.asset.writable_codec,
      writable_pair.mpr ⟨body.clearFlags.writable_codec, body.setFlags.writable_codec⟩⟩⟩
  | poolDeposit body =>
    refine iff_of_true (Iff.mpr (writable_arm rfl) ?_) ⟨trivial, trivial⟩
    exact writable_pair.mpr ⟨body.pool.writable_codec,
      writable_pair.mpr ⟨body.maxAmountA.writable_codec,
      writable_pair.mpr ⟨body.maxAmountB.writable_codec,
        writable_pair.mpr ⟨body.minPrice.writable_codec, body.maxPrice.writable_codec⟩⟩⟩⟩
  | poolWithdraw body =>
    refine iff_of_true (Iff.mpr (writable_arm rfl) ?_) ⟨trivial, trivial⟩
    exact writable_pair.mpr ⟨body.pool.writable_codec,
      writable_pair.mpr ⟨body.amount.writable_codec,
      writable_pair.mpr ⟨body.minAmountA.writable_codec, body.minAmountB.writable_codec⟩⟩⟩

end OperationBody

/-! ### Operations -/

theorem Operation.writable_codec_iff {operation : Operation} :
    Operation.codec.Writable operation ↔ operation.body.LimitsKept ∧ operation.body.PartsFit := by
  rw [Operation.codec, writable_convert, writable_pair, writable_optional,
    OperationBody.writable_codec_iff]
  exact and_iff_right fun account _ => account.writable_codec

/-! ### Built operations -/

theorem Form.limitsKept_of_toBody {form : Form} {kind : OperationKind} {body : OperationBody}
    (made : form.toBody kind = .ok body) : body.LimitsKept := by
  obtain ⟨rfl, -⟩ := Form.form_of_toBody made
  cases body with
  | pathPaymentStrictReceive body | pathPaymentStrictSend body =>
    simp only [OperationBody.kind, Form.toBody, Outcome.map_eq_ok_iff] at made
    obtain ⟨_, payment, same⟩ := made
    cases same
    exact (Form.filled_of_pathPayment payment).2
  | setOptions body =>
    simp only [OperationBody.kind, Form.toBody, Outcome.map_eq_ok_iff] at made
    obtain ⟨_, options, same⟩ := made
    cases same
    exact (Form.filled_of_setOptions options).2
  | manageData body =>
    simp only [OperationBody.kind, Form.toBody, Outcome.bind_eq_ok_iff,
      Form.check_eq_ok_iff] at made
    obtain ⟨_, _, _, short, same⟩ := made
    cases same
    exact short
  | createClaimableBalance body =>
    simp only [OperationBody.kind, Form.toBody, Outcome.bind_eq_ok_iff,
      Form.check_eq_ok_iff] at made
    obtain ⟨_, _, _, _, _, _, _, few, same⟩ := made
    cases same
    exact few
  | _ => trivial

/-- The operations that builders give, however they are called. -/
def Operation.Built (operation : Operation) : Prop :=
  ∃ kind calls, .built operation ∈ Builder.construction.replies (Builder.new kind) calls

theorem Operation.Built.limitsKept {operation : Operation} (built : operation.Built) :
    operation.body.LimitsKept := by
  obtain ⟨kind, calls, member⟩ := built
  obtain ⟨before, reply⟩ := Construction.exists_build_of_mem member
  cases used : before.consumed with
  | true =>
    rw [Construction.call_build_of_error (Builder.run_build_of_consumed used)] at reply
    cases reply
  | false =>
    cases made : before.form.toBody before.kind with
    | error failure =>
      rw [Builder.reply_build_of_error used made] at reply
      cases reply
    | ok body =>
      rw [Builder.reply_build_of_ok used made] at reply
      cases reply
      exact Form.limitsKept_of_toBody made

/-- What is checked when an operation is built is not looked at again: it is written if its other
parts fit. -/
theorem Operation.Built.writable_codec_iff {operation : Operation} (built : operation.Built) :
    Operation.codec.Writable operation ↔ operation.body.PartsFit := by
  rw [Operation.writable_codec_iff]
  exact and_iff_right built.limitsKept

end LedgerWire
