import LedgerWire.Memo
import LedgerWire.Operation.Basic
import LedgerWire.Proofs.Layout.Asset
import LedgerWire.Proofs.Layout.Claim
import LedgerWire.Proofs.Layout.Time
import LedgerWire.Proofs.Wire.Writable

/-!
Contract: which values of the parts of operations and transactions can be written. Most types have
only values that can; of the others, the limits that they leave open are stated here.

Owns:
- `PoolParameters.Fits`, `LedgerKey.Fits` and `Signer.Fits`: the limits that these types leave open;
- for each type, that its values can be written, or when.

Does not own: operations and transactions as wholes.
-/

namespace LedgerWire

open Wire Codec

/-! ### Keys and accounts -/

theorem PublicKey.writable_bareCodec (key : PublicKey) : PublicKey.bareCodec.Writable key :=
  writable_fixedBytes key.key

theorem PublicKey.writable_codec (key : PublicKey) : PublicKey.codec.Writable key :=
  Iff.mpr (writable_union 0 rfl (by decide) rfl) key.writable_bareCodec

theorem MuxedAccount.writable_codec (account : MuxedAccount) :
    MuxedAccount.codec.Writable account := by
  cases account with
  | plain key => exact Iff.mpr (writable_kind 0 rfl (by decide) rfl rfl) key.writable_bareCodec
  | muxed muxed =>
    have fits : Integer.uint64.Fits muxed.id := by
      have below := muxed.id_lt
      simp only [Integer.Fits, Integer.least, Integer.greatest]
      omega
    have parts : MuxedKey.codec.Writable muxed :=
      writable_pair.mpr ⟨writable_uint64.mpr fits, muxed.key.writable_bareCodec⟩
    exact Iff.mpr (writable_kind 256 rfl (by decide) rfl rfl) parts

theorem SignedPayload.writable_codec (signed : SignedPayload) :
    SignedPayload.codec.Writable signed :=
  writable_pair.mpr ⟨signed.key.writable_bareCodec,
    (writable_bytes 64 (by decide)).mpr (by exact_mod_cast signed.length_le)⟩

theorem SignerKey.writable_codec (key : SignerKey) : SignerKey.codec.Writable key := by
  cases key with
  | ed25519 key => exact Iff.mpr (writable_kind 0 rfl (by decide) rfl rfl) key.writable_bareCodec
  | preAuthTx hash =>
    exact Iff.mpr (writable_kind 1 rfl (by decide) rfl rfl) (writable_fixedBytes hash.hash)
  | hashX hash =>
    exact Iff.mpr (writable_kind 2 rfl (by decide) rfl rfl) (writable_fixedBytes hash.hash)
  | signedPayload signed =>
    exact Iff.mpr (writable_kind 3 rfl (by decide) rfl rfl) signed.writable_codec

/-- The weight of a signer is any number; on the wire it is an unsigned 32-bit one. -/
def Signer.Fits (signer : Signer) : Prop := Integer.uint32.Fits signer.weight

instance (signer : Signer) : Decidable signer.Fits := inferInstanceAs (Decidable (Integer.Fits _ _))

theorem Signer.writable_codec_iff {signer : Signer} :
    Signer.codec.Writable signer ↔ signer.Fits := by
  rw [Signer.codec, writable_convert, writable_pair, writable_uint32]
  exact and_iff_right signer.key.writable_codec

/-! ### Numbers, flags and data -/

theorem Stroops.writable_codec (stroops : Stroops) : Stroops.codec.Writable stroops :=
  writable_int64.mpr stroops.inRange

theorem Stroops.writable_feeCodec_iff {fee : Stroops} :
    Stroops.feeCodec.Writable fee ↔ Integer.uint32.Fits fee.value := by
  rw [← writable_uint32]
  simp only [Writable, Stroops.write_feeCodec_eq_done_iff]

theorem Price.writable_codec (price : Price) : Price.codec.Writable price :=
  writable_pair.mpr ⟨writable_int32.mpr price.numeratorFits,
    writable_int32.mpr price.denominatorFits⟩

theorem AccountFlags.writable_codec (flags : AccountFlags) : AccountFlags.codec.Writable flags := by
  have below := flags.bits_lt
  refine writable_uint32.mpr ?_
  simp only [Integer.Fits, Integer.least, Integer.greatest]
  omega

theorem TrustLineFlags.writable_codec (flags : TrustLineFlags) :
    TrustLineFlags.codec.Writable flags := by
  have below := flags.bits_lt
  refine writable_uint32.mpr ?_
  simp only [Integer.Fits, Integer.least, Integer.greatest]
  omega

theorem DataValue.writable_codec (value : DataValue) : DataValue.codec.Writable value :=
  (writable_bytes 64 (by decide)).mpr (by exact_mod_cast value.length_le)

/-! ### Assets -/

theorem AssetCode.writable_codec (code : AssetCode) :
    (AssetCode.codec code.formNumber).Writable code :=
  writable_bytesExactly.mpr (by exact_mod_cast code.length_padded)

theorem CreditAsset.writable_codec (asset : CreditAsset) :
    (CreditAsset.codec asset.code.formNumber).Writable asset :=
  writable_pair.mpr ⟨asset.code.writable_codec, asset.issuer.writable_codec⟩

namespace Asset

theorem formNumber_eq_or (asset : Asset) :
    asset.formNumber = 0 ∨ asset.formNumber = 1 ∨ asset.formNumber = 2 := by
  cases asset with
  | native => exact Or.inl rfl
  | credit asset => exact Or.inr asset.code.formNumber_eq_or

theorem fits_formNumber (asset : Asset) : Integer.int32.Fits asset.formNumber := by
  rcases asset.formNumber_eq_or with number | number | number <;> rw [number] <;> decide

/-- Each asset is written in the layout of its own form. -/
theorem exists_form (asset : Asset) :
    ∃ arm, forms asset.formNumber = some arm ∧ arm.Writable asset := by
  cases asset with
  | native => exact ⟨_, rfl, Iff.mpr (writable_arm rfl) (writable_nothing ())⟩
  | credit asset =>
    have written := asset.writable_codec
    change ∃ arm, forms asset.code.formNumber = some arm ∧ _
    rcases asset.code.formNumber_eq_or with number | number
    all_goals
      rw [number] at written ⊢
      exact ⟨_, rfl, Iff.mpr (writable_arm rfl) written⟩

theorem writable_codec (asset : Asset) : Asset.codec.Writable asset := by
  obtain ⟨arm, found, written⟩ := asset.exists_form
  exact Iff.mpr (writable_union asset.formNumber rfl asset.fits_formNumber found) written

end Asset

theorem LiquidityPoolId.writable_codec (id : LiquidityPoolId) : LiquidityPoolId.codec.Writable id :=
  writable_fixedBytes id.hash

/-- The fee of a pool is any number; on the wire it is a 32-bit one. -/
def PoolParameters.Fits (pool : PoolParameters) : Prop := Integer.int32.Fits pool.fee

instance (pool : PoolParameters) : Decidable pool.Fits :=
    inferInstanceAs (Decidable (Integer.Fits _ _))

theorem PoolParameters.writable_codec_iff {pool : PoolParameters} :
    PoolParameters.codec.Writable pool ↔ pool.Fits := by
  refine Iff.trans (writable_union 0 rfl (by decide) rfl) ?_
  rw [PoolParameters.bareCodec, writable_convert, writable_pair, writable_pair, writable_int32]
  exact (and_iff_right pool.assetA.writable_codec).trans (and_iff_right pool.assetB.writable_codec)

/-- An asset is written as a choice as it is written alone. -/
theorem AssetOrPool.write_asset {Pool : Type} (poolCodec : Codec Pool) (name : String)
    (asset : Asset) :
    (AssetOrPool.codec poolCodec name).write (.asset asset) = Asset.codec.write asset := by
  have notPool : asset.formNumber ≠ 3 := by
    rcases asset.formNumber_eq_or with number | number | number <;> rw [number] <;> decide
  rcases asset.exists_form with ⟨arm, found, -⟩
  have shared : AssetOrPool.forms poolCodec asset.formNumber =
      (Asset.forms asset.formNumber).map _ := if_neg notPool
  rw [found] at shared
  unfold AssetOrPool.codec Asset.codec Codec.union
  simp only
  rw [found, show AssetOrPool.formNumber (.asset asset : AssetOrPool Pool) =
    asset.formNumber from rfl, shared]
  rfl

theorem AssetOrPool.writable_codec_asset {Pool : Type} (poolCodec : Codec Pool) (name : String)
    (asset : Asset) : (AssetOrPool.codec poolCodec name).Writable (.asset asset) := by
  rcases asset.writable_codec with ⟨bytes, written⟩
  exact ⟨bytes, (AssetOrPool.write_asset poolCodec name asset).trans written⟩

theorem AssetOrPool.writable_codec_pool_iff {Pool : Type} {poolCodec : Codec Pool} {name : String}
    {pool : Pool} :
    (AssetOrPool.codec poolCodec name).Writable (.pool pool) ↔ poolCodec.Writable pool :=
  writable_kind 3 rfl (by decide) rfl rfl

theorem TrustLineAsset.writable_codec (asset : TrustLineAsset) :
    TrustLineAsset.codec.Writable asset := by
  cases asset with
  | asset value => exact AssetOrPool.writable_codec_asset _ _ value
  | pool id => exact AssetOrPool.writable_codec_pool_iff.mpr id.writable_codec

/-- Whether the pool of a line of trust, if it is one of a pool, has a fee that fits. -/
def ChangeTrustAsset.Fits : ChangeTrustAsset → Prop
  | .asset _ => True
  | .pool pool => pool.Fits

theorem ChangeTrustAsset.writable_codec_iff {line : ChangeTrustAsset} :
    ChangeTrustAsset.codec.Writable line ↔ ChangeTrustAsset.Fits line := by
  cases line with
  | asset value => exact iff_of_true (AssetOrPool.writable_codec_asset _ _ value) trivial
  | pool pool => exact AssetOrPool.writable_codec_pool_iff.trans PoolParameters.writable_codec_iff

/-! ### Claims -/

theorem ClaimableBalanceId.writable_codec (id : ClaimableBalanceId) :
    ClaimableBalanceId.codec.Writable id :=
  Iff.mpr (writable_union 0 rfl (by decide) rfl) (writable_fixedBytes id.hash)

/-- Clocks show the years 1 to 9999 and are less than a day off, so every Unix time has a form. -/
theorem Moment.fits_unix (moment : Moment) : Integer.int64.Fits moment.unix := by
  have near := moment.natAbs_unix_le
  simp only [Integer.Fits, Integer.least, Integer.greatest]
  omega

namespace ClaimPredicate

theorem writable_branches {left right : ClaimPredicate}
    (leftWritten : ∃ bytes, left.write = .done bytes)
    (rightWritten : ∃ bytes, right.write = .done bytes) :
    ∃ bytes, uint32.write 2 ++ (left.write ++ right.write) = .done bytes :=
  writable_append.mpr ⟨writable_uint32.mpr (by decide),
    writable_append.mpr ⟨leftWritten, rightWritten⟩⟩

/-- However deep a condition is, it is written. -/
theorem writable_codec (predicate : ClaimPredicate) : ClaimPredicate.codec.Writable predicate := by
  change ∃ bytes, predicate.write = .done bytes
  -- What a kind is written with before its content always fits; the induction is on the branches.
  have tagged {kind : Int} (fits : Integer.int32.Fits kind) {content : Output}
      (written : ∃ bytes, content = .done bytes) :
      ∃ bytes, int32.write kind ++ content = .done bytes :=
    writable_append.mpr ⟨writable_int32.mpr fits, written⟩
  induction predicate with
  | unconditional => exact writable_int32.mpr (by decide)
  | and left right leftWritten rightWritten =>
    exact tagged (by decide) (writable_branches leftWritten rightWritten)
  | or left right leftWritten rightWritten =>
    exact tagged (by decide) (writable_branches leftWritten rightWritten)
  | not inner innerWritten =>
    exact tagged (by decide) (writable_append.mpr ⟨writable_bool true, innerWritten⟩)
  | beforeAbsolute deadline =>
    exact tagged (by decide) (writable_int64.mpr deadline.fits_unix)
  | beforeRelative span =>
    have inRange := span.inRange
    simp only [Span.least, Span.greatest] at inRange
    refine tagged (by decide) (writable_int64.mpr ?_)
    simp only [Integer.Fits, Integer.least, Integer.greatest]
    omega

end ClaimPredicate

theorem Claimant.writable_codec (claimant : Claimant) : Claimant.codec.Writable claimant := by
  refine Iff.mpr (writable_union 0 rfl (by decide) rfl) ?_
  exact writable_pair.mpr ⟨claimant.destination.writable_codec, claimant.predicate.writable_codec⟩

/-! ### Ledger keys -/

/-- The limits that a ledger key leaves open: the id of an offer is a 64-bit number on the wire, and
the name of an entry of data has up to 64 bytes. -/
def LedgerKey.Fits : LedgerKey → Prop
  | .offer _ offerId => Integer.int64.Fits offerId
  | .data _ name => Text.Utf8.size name ≤ 64
  | _ => True

theorem LedgerKey.writable_codec_iff {key : LedgerKey} :
    LedgerKey.codec.Writable key ↔ key.Fits := by
  cases key with
  | account owner =>
    exact iff_of_true (Iff.mpr (writable_kind 0 rfl (by decide) rfl rfl) owner.writable_codec)
      trivial
  | trustLine owner asset =>
    refine iff_of_true (Iff.mpr (writable_kind 1 rfl (by decide) rfl rfl) ?_) trivial
    exact writable_pair.mpr ⟨owner.writable_codec, TrustLineAsset.writable_codec asset⟩
  | offer seller offerId =>
    refine Iff.trans (writable_kind 2 rfl (by decide) rfl rfl) ?_
    rw [writable_pair, writable_int64]
    exact and_iff_right seller.writable_codec
  | data owner name =>
    refine Iff.trans (writable_kind 3 rfl (by decide) rfl rfl) ?_
    rw [writable_pair, writable_text 64 (by decide)]
    exact (and_iff_right owner.writable_codec).trans Nat.cast_le
  | claimableBalance id =>
    exact iff_of_true (Iff.mpr (writable_kind 4 rfl (by decide) rfl rfl) id.writable_codec) trivial
  | liquidityPool id =>
    exact iff_of_true (Iff.mpr (writable_kind 5 rfl (by decide) rfl rfl) id.writable_codec) trivial

/-! ### Memos and time bounds -/

theorem Memo.writable_codec (memo : Memo) : Memo.codec.Writable memo := by
  cases memo with
  | absent => exact Iff.mpr (writable_kind 0 rfl (by decide) rfl rfl) (writable_nothing ())
  | text value short =>
    refine Iff.mpr (writable_union 1 rfl (by decide) rfl) ?_
    exact (writable_text 28 (by decide)).mpr (by exact_mod_cast short)
  | id value small =>
    refine Iff.mpr (writable_union 2 rfl (by decide) rfl) ?_
    refine writable_uint64.mpr ?_
    simp only [Memo.id?, Option.getD_some, Integer.Fits, Integer.least, Integer.greatest]
    omega
  | hash value =>
    exact Iff.mpr (writable_kind 3 rfl (by decide) rfl rfl) (writable_fixedBytes value)
  | returnHash value =>
    exact Iff.mpr (writable_kind 4 rfl (by decide) rfl rfl) (writable_fixedBytes value)

theorem TimeBounds.fits_unixOrZero {bound : Option Moment} (positive : ∀ m ∈ bound, 0 < m.instant) :
    Integer.uint64.Fits (Moment.unixOrZero bound) := by
  have nonneg := TimeBounds.unixOrZero_nonneg positive
  cases bound with
  | none => decide
  | some moment =>
    have near := moment.natAbs_unix_le
    have isUnix : Moment.unixOrZero (some moment) = moment.unix := rfl
    rw [isUnix] at nonneg ⊢
    simp only [Integer.Fits, Integer.least, Integer.greatest]
    omega

theorem TimeBounds.writable_codec (bounds : TimeBounds) : TimeBounds.codec.Writable bounds :=
  writable_pair.mpr
    ⟨writable_uint64.mpr (TimeBounds.fits_unixOrZero bounds.proper.1),
      writable_uint64.mpr (TimeBounds.fits_unixOrZero bounds.proper.2.1)⟩

end LedgerWire
