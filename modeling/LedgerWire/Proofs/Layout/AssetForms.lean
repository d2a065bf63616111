import LedgerWire.Proofs.Amount.Refusal
import LedgerWire.Proofs.Layout.Writable

/-!
Contract: the forms of assets agree wherever they stand. The texts that are codes are told by their
characters, and a field of either width holds just the codes that are written to it. An asset is
written and read alike on its own, in a line of trust and in a change of trust: only the number
three, which stands for the share of a pool, sets these apart.

Owns:
- `AssetCode.Spelled`, which texts are codes, with their form and their field;
- `AssetOrPool.Follows`, and that what is no share of a pool is written and read alike in the three
  places.

Does not own: shares of pools.
-/

namespace LedgerWire

open Wire Codec

/-! ### Codes -/

namespace AssetCode

/-- Whether a text has one to twelve characters, each of them ASCII and none of them NUL. -/
def Spelled (text : String) : Prop :=
  (1 ≤ text.toList.length ∧ text.toList.length ≤ 12) ∧ ∀ c ∈ text.toList, 1 ≤ c.toNat ∧
    c.toNat < 0x80

-- decided along the text, where instance search would go through all characters that there are
instance (text : String) : Decidable (Spelled text) :=
    @instDecidableAnd _ _ inferInstance (List.decidableBAll _ _)

/-- The characters of a text as bytes. -/
def characters (text : String) : Bytes := text.toList.map fun c => UInt8.ofNat c.toNat

theorem length_characters (text : String) : (characters text).length = text.toList.length :=
    List.length_map _

theorem proper_characters_iff {text : String} (domestic : ∀ c ∈ text.toList, c.toNat < 0x80) :
    Proper (characters text) ↔ Spelled text := by
  have byte {c : Char} (member : c ∈ text.toList) :
      (1 ≤ UInt8.ofNat c.toNat ∧ UInt8.ofNat c.toNat < 0x80) ↔ 1 ≤ c.toNat ∧ c.toNat < 0x80 := by
    have below := domestic c member
    rw [UInt8.le_iff_toNat_le, UInt8.lt_iff_toNat_lt, UInt8.toNat_ofNat',
      Nat.mod_eq_of_lt (by omega)]
    rfl
  unfold Proper Spelled
  rw [length_characters]
  apply and_congr_right'
  unfold characters
  rw [List.forall_mem_map]
  exact forall₂_congr fun c member => byte member

theorem ofText_eq (text : String) :
    ofText text =
      if spelled : Spelled text then
        .ok ⟨characters text,
          (proper_characters_iff fun c member => (spelled.2 c member).2).mpr spelled⟩
      else
        .error (invalid (.text text)) := by
  unfold ofText
  cases encoded : Text.Ascii.encode? text with
  | none =>
    have notSpelled : ¬ Spelled text := by
      intro spelled
      rw [Text.Ascii.encode?_of_ascii fun c member => (spelled.2 c member).2] at encoded
      cases encoded
    rw [dif_neg notSpelled]
  | some bytes =>
    have domestic := Text.Ascii.ascii_of_encode? encoded
    rw [Text.Ascii.encode?_of_ascii domestic] at encoded
    obtain rfl := Option.some.inj encoded
    by_cases spelled : Spelled text
    · rw [dif_pos spelled]
      exact dif_pos ((proper_characters_iff domestic).mpr spelled)
    · rw [dif_neg spelled]
      exact dif_neg (mt (proper_characters_iff domestic).mp spelled)

/-- The code of a text is the one that spells this text. -/
theorem ofText_eq_ok_iff_text {text : String} {code : AssetCode} :
    ofText text = .ok code ↔ code.text = text := by
  constructor
  · intro made
    cases encoded : Text.Ascii.encode? text with
    | none =>
      unfold ofText at made
      rw [encoded] at made
      cases made
    | some bytes =>
      have same := (ofText_eq_ok_iff encoded).mp made
      have decoded := (Text.Ascii.decode_eq_ok_iff.mp (Text.Ascii.encode?_eq_some_iff.mp encoded)).2
      rw [decoded, ← same]
      rfl
  · rintro rfl
    exact code.ofText_text

theorem spelled_text (code : AssetCode) : Spelled code.text := by
  by_contra notSpelled
  have made := code.ofText_text
  rw [ofText_eq, dif_neg notSpelled] at made
  cases made

/-- The text of a code tells its form and its field. -/
theorem exists_ofText {text : String} (spelled : Spelled text) :
    ∃ code, ofText text = .ok code ∧ code.text = text ∧
      code.formNumber = (if text.toList.length ≤ 4 then 1 else 2) ∧
      code.padded =
      characters text ++ List.replicate (widthOf code.formNumber - text.toList.length) 0 := by
  have made := ofText_eq text
  rw [dif_pos spelled] at made
  refine ⟨_, made, ofText_eq_ok_iff_text.mp made, ?_, ?_⟩
  · unfold formNumber
    rw [length_characters]
  · unfold padded
    rw [length_characters]

/-- A field of the width of a form is read as a text just if this is a code of the form that fills
the field. -/
theorem text_ofField_eq_ok_iff {form : Int} {field : Bytes} (width : field.length = widthOf form)
    {text : String} :
    (ofField form field).map AssetCode.text = .ok text ↔
      Spelled text ∧ (ofText text).map formNumber = .ok form ∧
      (ofText text).map padded = .ok field := by
  constructor
  · intro read
    rcases Outcome.map_eq_ok_iff.mp read with ⟨code, accepted, rfl⟩
    rcases (ofField_eq_ok_iff width).mp accepted with ⟨isForm, filled⟩
    rw [ofText_text, ← isForm, ← filled]
    exact ⟨code.spelled_text, rfl, rfl⟩
  · rintro ⟨spelled, isForm, filled⟩
    rcases exists_ofText spelled with ⟨code, made, rfl, -, -⟩
    rw [made] at isForm filled
    have accepted := (ofField_eq_ok_iff width).mpr ⟨Except.ok.inj isForm, Except.ok.inj filled⟩
    rw [accepted]
    rfl

/-- A field that holds no code is refused as malformed data or as an invalid code. -/
theorem failsOnlyBy_ofField (form : Int) (field : Bytes) :
    FailsOnlyBy [.xdr, .invalidAssetCode] (ofField form field) := by
  unfold ofField
  simp only
  split
  · exact failsOnlyBy_fault List.mem_cons_self
  · cases decoded : Text.Ascii.decode (field.takeWhile (· != 0)) with
    | error foreign => exact failsOnlyBy_fault (List.mem_cons_of_mem _ List.mem_cons_self)
    | ok text =>
      show FailsOnlyBy _ (ofText text >>= _)
      apply FailsOnlyBy.bind
      · rw [ofText_eq]
        split_ifs
        · exact failsOnlyBy_ok _
        · exact failsOnlyBy_fault (List.mem_cons_of_mem _ List.mem_cons_self)
      · intro code
        split
        · exact failsOnlyBy_ok _
        · exact failsOnlyBy_fault List.mem_cons_self

end AssetCode

/-! ### Choices -/

namespace AssetOrPool

variable {Pool : Type}

/-- Whether what is read where a share of a pool may stand is the asset that is read elsewhere, and
nothing where none is. -/
def Follows (choice : Except Failure (AssetOrPool Pool)) (asset : Except Failure Asset) : Prop :=
  match asset with
  | .ok value => choice = .ok (.asset value)
  | .error _ => ∃ failure, choice = .error failure

theorem ne_three_of_read {cursor between : Cursor} {form : Int}
    (notPool : cursor.rest.take 4 ≠ [0, 0, 0, 3])
    (read : int32.read.run cursor = .ok form between) : form ≠ 3 := by
  rintro rfl
  rcases faithful_int32.canonical read with ⟨front, split, written, -⟩
  rcases write_integer_eq_done_iff.mp written with ⟨-, rfl⟩
  apply notPool
  rw [split, show Integer.int32.toBytes 3 = [0, 0, 0, 3] by decide]
  rfl

/-- Where no share of a pool stands, a choice is read as an asset is, and the reader stops at the
same place. -/
theorem follows_runFrom (poolCodec : Codec Pool) (name : String) {cursor : Cursor}
    (notPool : cursor.rest.take 4 ≠ [0, 0, 0, 3]) :
    Follows ((codec poolCodec name).read.runFrom cursor).1 (Asset.codec.read.runFrom cursor).1 ∧
      ((codec poolCodec name).read.runFrom cursor).2 = (Asset.codec.read.runFrom cursor).2 := by
  unfold Reader.runFrom codec Asset.codec Codec.union
  cases tag : int32.read.run cursor with
  | error failure between =>
    rw [Outcome.run_bind_of_error tag, Outcome.run_bind_of_error tag]
    exact ⟨⟨_, rfl⟩, rfl⟩
  | ok form between =>
    rw [Outcome.run_bind_of_ok tag, Outcome.run_bind_of_ok tag]
    have shared : forms poolCodec form = _ := if_neg (ne_three_of_read notPool tag)
    rw [shared]
    cases found : Asset.forms form with
    | none => exact ⟨⟨_, rfl⟩, rfl⟩
    | some arm =>
      simp only [Option.map_some, Codec.arm]
      cases content : arm.read.run between with
      | error failure after =>
        rw [Outcome.run_bind_of_error content]
        exact ⟨⟨_, rfl⟩, rfl⟩
      | ok value after =>
        rw [Outcome.run_bind_of_ok content]
        exact ⟨rfl, rfl⟩

theorem follows_decode (poolCodec : Codec Pool) (name : String) {input : Bytes}
    (notPool : input.take 4 ≠ [0, 0, 0, 3]) :
    Follows ((codec poolCodec name).decode input) (Asset.codec.decode input) := by
  have run := follows_runFrom poolCodec name
    (show (Cursor.start input).rest.take 4 ≠ [0, 0, 0, 3] from notPool)
  unfold Codec.decode
  rw [Reader.readAll_eq, Reader.readAll_eq]
  generalize (codec poolCodec name).read.runFrom (Cursor.start input) = answer at run ⊢
  generalize Asset.codec.read.runFrom (Cursor.start input) = assetAnswer at run ⊢
  rcases answer with ⟨choice, place⟩
  rcases assetAnswer with ⟨asset, after⟩
  rcases run with ⟨follows, same⟩
  obtain rfl : place = after := same
  cases asset with
  | error failure =>
    rcases follows with ⟨refusal, rfl⟩
    exact ⟨refusal, rfl⟩
  | ok value =>
    obtain rfl : choice = .ok (.asset value) := follows
    simp only
    split
    · rfl
    · exact ⟨_, rfl⟩

end AssetOrPool

/-- Texts of one to twelve characters, ASCII without NUL, are codes, with their form by their length
and a field filled up with zeros; a field of the width of a form is read as just the text of that
form that fills it, or refused. An asset is written alike alone, in a line of trust and in a change
of trust, and where the number is not three these are read alike, from whole inputs and within
longer ones. -/
theorem Asset.forms_agree :
    (∀ text,
      if AssetCode.Spelled text then
        ∃ code, AssetCode.ofText text = .ok code ∧ code.text = text ∧
          code.formNumber = (if text.toList.length ≤ 4 then 1 else 2) ∧
          code.padded = AssetCode.characters text ++
            List.replicate (AssetCode.widthOf code.formNumber - text.toList.length) 0
      else
        AssetCode.ofText text = .error (AssetCode.invalid (.text text))) ∧
    (∀ form field, field.length = AssetCode.widthOf form →
      (∀ text, (AssetCode.ofField form field).map AssetCode.text = .ok text ↔
        AssetCode.Spelled text ∧ (AssetCode.ofText text).map AssetCode.formNumber = .ok form ∧
          (AssetCode.ofText text).map AssetCode.padded = .ok field) ∧
      FailsOnlyBy [.xdr, .invalidAssetCode] (AssetCode.ofField form field)) ∧
    (∀ asset, ∃ bytes, Asset.codec.encode asset = .ok bytes ∧
      TrustLineAsset.codec.encode (.asset asset) = .ok bytes ∧
      ChangeTrustAsset.codec.encode (.asset asset) = .ok bytes) ∧
    (∀ input : Bytes, input.take 4 ≠ [0, 0, 0, 3] →
      AssetOrPool.Follows (TrustLineAsset.codec.decode input) (Asset.codec.decode input) ∧
      AssetOrPool.Follows (ChangeTrustAsset.codec.decode input) (Asset.codec.decode input)) ∧
    (∀ cursor : Cursor, cursor.rest.take 4 ≠ [0, 0, 0, 3] →
      let asset := Asset.codec.read.runFrom cursor
      let line := TrustLineAsset.codec.read.runFrom cursor
      let change := ChangeTrustAsset.codec.read.runFrom cursor
      AssetOrPool.Follows line.1 asset.1 ∧ AssetOrPool.Follows change.1 asset.1 ∧
        line.2 = asset.2 ∧ change.2 = asset.2) := by
  refine ⟨?_, ?_, ?_, ?_, ?_⟩
  · intro text
    by_cases spelled : AssetCode.Spelled text
    · rw [if_pos spelled]
      exact AssetCode.exists_ofText spelled
    · rw [if_neg spelled, AssetCode.ofText_eq, dif_neg spelled]
  · intro form field width
    exact ⟨fun text => AssetCode.text_ofField_eq_ok_iff width,
      AssetCode.failsOnlyBy_ofField form field⟩
  · intro asset
    rcases exists_encode_iff.mpr asset.writable_codec with ⟨bytes, encoded⟩
    refine ⟨bytes, encoded, ?_, ?_⟩
    · rw [← encoded]
      exact congrArg Output.toExcept (AssetOrPool.write_asset _ _ asset)
    · rw [← encoded]
      exact congrArg Output.toExcept (AssetOrPool.write_asset _ _ asset)
  · intro input notPool
    exact ⟨AssetOrPool.follows_decode _ _ notPool, AssetOrPool.follows_decode _ _ notPool⟩
  · intro cursor notPool
    rcases AssetOrPool.follows_runFrom LiquidityPoolId.codec "trust line" notPool with
      ⟨line, linePlace⟩
    rcases AssetOrPool.follows_runFrom PoolParameters.codec "change trust" notPool with
      ⟨change, changePlace⟩
    exact ⟨line, change, linePlace, changePlace⟩

/-- A code of five letters in its field, and an asset of this code where a share of a pool might
stand. -/
theorem Asset.forms_agree_fiveLetters :
    let field : Bytes := [65, 66, 67, 68, 69, 0, 0, 0, 0, 0, 0, 0]
    let input : Bytes := [0, 0, 0, 2] ++ field ++ List.replicate 36 0
    (field.length = AssetCode.widthOf 2 ∧ input.take 4 ≠ [0, 0, 0, 3]) ∧
      (AssetCode.ofField 2 field).map AssetCode.text = .ok "ABCDE" ∧
      ∃ asset, Asset.codec.decode input = .ok asset ∧
      TrustLineAsset.codec.decode input = .ok (.asset asset) ∧
        ChangeTrustAsset.codec.decode input = .ok (.asset asset) := by
  intro field input
  have notPool : input.take 4 ≠ [0, 0, 0, 3] := by decide
  rcases forms_agree with ⟨-, fields, -, inputs, -⟩
  have isCode :=
    ((fields 2 field rfl).1 "ABCDE").mpr ⟨by decide, by decide +kernel, by decide +kernel⟩
  rcases inputs input notPool with ⟨line, change⟩
  have read : Asset.codec.decode input =
      .ok (.credit ⟨⟨[65, 66, 67, 68, 69], by decide +kernel⟩, ⟨⟨List.replicate 32 0, rfl⟩⟩⟩) := by
    decide +kernel
  rw [read] at line change
  exact ⟨⟨rfl, notPool⟩, isCode, _, read, line, change⟩

end LedgerWire
