import LedgerWire.LedgerKey
import LedgerWire.Proofs.Layout.Account
import LedgerWire.Proofs.Outcome
import LedgerWire.Proofs.Text.Ascii

/-!
Contract: the layouts of assets, of shares of pools and of the keys of ledger entries are faithful.

An asset code stands in a field that is filled up with zero bytes. The field gives the code back
because no character of a code is zero, and the form gives the width of the field because it depends
on the code's length alone.

Owns:
- `AssetCode.ofField_eq_ok_iff`, which fields hold which codes;
- one faithfulness lemma for each of these layouts, and the widths that lists rely on.

Does not own: operations on assets.
-/

namespace LedgerWire

open Wire Codec

/-! ### Codes in their fields -/

theorem AssetCode.ofText_eq_ok_iff {text : String} {bytes : Bytes} {code : AssetCode}
    (encoded : Text.Ascii.encode? text = some bytes) :
    AssetCode.ofText text = .ok code ↔ code.bytes = bytes := by
  simp only [AssetCode.ofText, encoded]
  constructor
  · intro accepted
    split_ifs at accepted
    cases accepted
    rfl
  · intro same
    subst same
    simp [code.proper]

theorem AssetCode.ofText_text (code : AssetCode) : AssetCode.ofText code.text = .ok code := by
  have decoded : Text.Ascii.decode code.bytes = .ok code.text :=
    Text.Ascii.decode_eq_ok_iff.mpr ⟨fun b member => (code.proper.2 b member).2, rfl⟩
  exact (AssetCode.ofText_eq_ok_iff (Text.Ascii.encode?_of_decode decoded)).mpr rfl

theorem AssetCode.formNumber_eq_or (code : AssetCode) :
    code.formNumber = 1 ∨ code.formNumber = 2 := by
  rw [AssetCode.formNumber]
  split
  · exact Or.inl rfl
  · exact Or.inr rfl

theorem AssetCode.length_le_widthOf (code : AssetCode) :
    code.bytes.length ≤ AssetCode.widthOf code.formNumber := by
  have atMost := code.proper.1.2
  rw [AssetCode.formNumber, AssetCode.widthOf]
  split_ifs <;> omega

theorem AssetCode.length_padded (code : AssetCode) :
    code.padded.length = AssetCode.widthOf code.formNumber := by
  have fits := code.length_le_widthOf
  rw [AssetCode.padded, List.length_append, List.length_replicate]
  omega

private theorem takeWhile_padded (code : AssetCode) :
    code.padded.takeWhile (· != 0) = code.bytes := by
  have nonzero : ∀ b ∈ code.bytes, (b != 0) = true := by
    intro b member
    have positive := (code.proper.2 b member).1
    rw [bne_iff_ne]
    intro isZero
    subst isZero
    exact absurd positive (by decide)
  rw [AssetCode.padded, List.takeWhile_append_of_pos nonzero, List.takeWhile_replicate]
  simp

/-- A field whose bytes after the first zero are all zero is what comes before, filled up. -/
private theorem eq_filled {field : Bytes} {front : Bytes}
    (before : field.takeWhile (· != 0) = front)
    (zeros : (field.drop front.length).any (· != 0) = false) :
    field = front ++ List.replicate (field.length - front.length) 0 := by
  have split := List.takeWhile_append_dropWhile (p := (· != 0)) (l := field)
  rw [before] at split
  have behind : field.drop front.length = field.dropWhile (· != 0) := by
    conv_lhs => rw [← split]
    exact List.drop_left
  have filled : field.dropWhile (· != 0) = List.replicate (field.length - front.length) 0 := by
    rw [List.eq_replicate_iff]
    constructor
    · rw [← behind, List.length_drop]
    · intro b member
      rw [← behind] at member
      simpa using List.any_eq_false.mp zeros b member
  rw [← filled, split]

/-- A field of the width of a form holds a code if it is that code, filled up, and the form is the
code's. -/
theorem AssetCode.ofField_eq_ok_iff {form : Int} {field : Bytes} {code : AssetCode}
    (width : field.length = AssetCode.widthOf form) :
    AssetCode.ofField form field = .ok code ↔ code.formNumber = form ∧ code.padded = field := by
  constructor
  · intro accepted
    unfold AssetCode.ofField at accepted
    generalize before : field.takeWhile (· != 0) = front at accepted
    cases zeros : (field.drop front.length).any (· != 0) with
    | true => simp [zeros, Outcome.bind_eq_ok_iff] at accepted
    | false =>
      cases decoded : Text.Ascii.decode front with
      | error foreign => simp [zeros, decoded] at accepted
      | ok text =>
        simp only [zeros, decoded, Outcome.bind_eq_ok_iff, Bool.false_eq_true, if_false] at accepted
        rcases accepted with ⟨found, made, accepted⟩
        obtain rfl := (AssetCode.ofText_eq_ok_iff (Text.Ascii.encode?_of_decode decoded)).mp made
        split_ifs at accepted with isForm
        obtain rfl := Outcome.pure_eq_ok_iff.mp accepted
        refine ⟨isForm, ?_⟩
        rw [AssetCode.padded, isForm, ← width]
        exact (eq_filled before zeros).symm
  · intro filled
    rcases filled with ⟨isForm, rfl⟩
    have behind : (code.padded.drop code.bytes.length).any (· != 0) = false := by
      simp [AssetCode.padded]
    have decoded : Text.Ascii.decode code.bytes = .ok code.text :=
      Text.Ascii.decode_eq_ok_iff.mpr ⟨fun b member => (code.proper.2 b member).2, rfl⟩
    simp [AssetCode.ofField, takeWhile_padded, behind, decoded, code.ofText_text, isForm, bind,
      Except.bind, pure, Except.pure]

theorem AssetCode.faithful_codec {form : Int} (isForm : form = 1 ∨ form = 2) :
    (AssetCode.codec form).Faithful := by
  have width_of_write {field bytes : Bytes}
      (written : (bytesExactly (AssetCode.widthOf form)).write field = .done bytes) :
      field.length = AssetCode.widthOf form := by
    by_contra other
    simp [bytesExactly, other, Output.failed, Output.done] at written
  apply (faithful_bytesExactly (AssetCode.widthOf form)).refine
  · intro field code _ written accepted
    exact ((AssetCode.ofField_eq_ok_iff (width_of_write written)).mp accepted).2
  · intro code _ written
    have width := width_of_write written
    refine (AssetCode.ofField_eq_ok_iff width).mpr ⟨?_, rfl⟩
    rw [AssetCode.length_padded] at width
    rcases code.formNumber_eq_or with own | own <;> rcases isForm with rfl | rfl <;>
      simp_all [AssetCode.widthOf]

theorem AssetCode.formNumber_of_write {form : Int} (isForm : form = 1 ∨ form = 2) {code : AssetCode}
    {bytes : Bytes} (written : (AssetCode.codec form).write code = .done bytes) :
    code.formNumber = form := by
  by_contra other
  have width : code.padded.length ≠ AssetCode.widthOf form := by
    rw [AssetCode.length_padded]
    rcases code.formNumber_eq_or with own | own <;> rcases isForm with rfl | rfl <;>
      simp_all [AssetCode.widthOf]
  simp [AssetCode.codec, Codec.refine, bytesExactly, width, Output.failed, Output.done] at written

/-! ### Assets -/

theorem CreditAsset.faithful_codec {form : Int} (isForm : form = 1 ∨ form = 2) :
    (CreditAsset.codec form).Faithful :=
  ((AssetCode.faithful_codec isForm).pair PublicKey.faithful_codec).convert (fun _ => rfl)
    (fun _ => rfl)

/-- The forms of assets are faithful among themselves. -/
theorem Asset.faithfulArm_forms {form : Int} {arm : Codec Asset}
    (found : Asset.forms form = some arm) : arm.FaithfulArm Asset.formNumber form := by
  unfold Asset.forms at found
  split_ifs at found with isNative isCredit
  · obtain rfl := Option.some.inj found
    refine faithful_nothing.toArm ?_ fun _ _ _ => isNative.symm
    intro asset nothing
    cases asset <;> simp
  · obtain rfl := Option.some.inj found
    have isForm : form = 1 ∨ form = 2 := by simpa using isCredit
    apply (CreditAsset.faithful_codec isForm).toArm
    · intro asset credit
      cases asset <;> simp [eq_comm]
    · intro asset _ written
      rcases Output.append_eq_done_iff.mp written with ⟨front, _, writtenCode, -, -⟩
      exact AssetCode.formNumber_of_write isForm writtenCode

theorem Asset.faithful_codec : Asset.codec.Faithful :=
  Faithful.union faithful_int32 fun _ _ found => Asset.faithfulArm_forms found

theorem Asset.wide_codec : Asset.codec.Wide := Wide.union (wide_integer .int32)

/-! ### Pools -/

theorem LiquidityPoolId.faithful_codec : LiquidityPoolId.codec.Faithful :=
  (faithful_fixedBytes 32).convert (fun _ => rfl) (fun _ => rfl)

theorem PoolParameters.faithful_codec : PoolParameters.codec.Faithful := by
  have bare : PoolParameters.bareCodec.Faithful :=
    (Asset.faithful_codec.pair (Asset.faithful_codec.pair faithful_int32)).convert (fun _ => rfl)
      (fun _ => rfl)
  refine Faithful.union_one faithful_int32 ?_ bare
  intro kind arm found
  split_ifs at found with isKind
  exact ⟨isKind, (Option.some.inj found).symm⟩

/-- A share of a pool stands where an asset may, under a number that is no asset's. -/
theorem AssetOrPool.faithful_codec {Pool : Type} {poolCodec : Codec Pool}
    (pool : poolCodec.Faithful)
    (name : String) : (AssetOrPool.codec poolCodec name).Faithful := by
  apply Faithful.union faithful_int32
  intro form arm found
  unfold AssetOrPool.forms at found
  split_ifs at found with isPool
  · obtain rfl := Option.some.inj found
    refine pool.toArm ?_ fun _ _ _ => isPool.symm
    intro choice content
    cases choice <;> simp [eq_comm]
  · rcases Option.map_eq_some_iff.mp found with ⟨asset, assetFound, rfl⟩
    refine (Asset.faithfulArm_forms assetFound).toArm ?_ fun _ => rfl
    intro choice content
    cases choice <;> simp [eq_comm]

theorem TrustLineAsset.faithful_codec : TrustLineAsset.codec.Faithful :=
  AssetOrPool.faithful_codec LiquidityPoolId.faithful_codec "trust line"

theorem ChangeTrustAsset.faithful_codec : ChangeTrustAsset.codec.Faithful :=
  AssetOrPool.faithful_codec PoolParameters.faithful_codec "change trust"

/-! ### Keys of ledger entries -/

theorem ClaimableBalanceId.faithful_codec : ClaimableBalanceId.codec.Faithful := by
  have bare : ((fixedBytes 32).convert (⟨·⟩) (·.hash) : Codec ClaimableBalanceId).Faithful :=
    (faithful_fixedBytes 32).convert (fun _ => rfl) (fun _ => rfl)
  refine Faithful.union_one faithful_int32 ?_ bare
  intro kind arm found
  split_ifs at found with isKind
  exact ⟨isKind, (Option.some.inj found).symm⟩

theorem LedgerKey.faithful_codec : LedgerKey.codec.Faithful := by
  apply Faithful.union faithful_int32
  intro kind arm found
  unfold LedgerKey.kinds at found
  split_ifs at found with isAccount isTrustLine isOffer isData isBalance isPool
  · obtain rfl := Option.some.inj found
    refine PublicKey.faithful_codec.toArm ?_ fun _ _ _ => isAccount.symm
    intro key content
    cases key <;> simp [eq_comm]
  · obtain rfl := Option.some.inj found
    refine (PublicKey.faithful_codec.pair TrustLineAsset.faithful_codec).toArm ?_
      fun _ _ _ => isTrustLine.symm
    intro key parts
    rcases parts with ⟨account, name⟩
    cases key <;> simp [eq_comm]
  · obtain rfl := Option.some.inj found
    refine (PublicKey.faithful_codec.pair faithful_int64).toArm ?_ fun _ _ _ => isOffer.symm
    intro key parts
    rcases parts with ⟨account, name⟩
    cases key <;> simp [eq_comm]
  · obtain rfl := Option.some.inj found
    refine (PublicKey.faithful_codec.pair (faithful_text (some 64))).toArm ?_
      fun _ _ _ => isData.symm
    intro key parts
    rcases parts with ⟨account, name⟩
    cases key <;> simp [eq_comm]
  · obtain rfl := Option.some.inj found
    refine ClaimableBalanceId.faithful_codec.toArm ?_ fun _ _ _ => isBalance.symm
    intro key content
    cases key <;> simp [eq_comm]
  · obtain rfl := Option.some.inj found
    refine LiquidityPoolId.faithful_codec.toArm ?_ fun _ _ _ => isPool.symm
    intro key content
    cases key <;> simp [eq_comm]

end LedgerWire
