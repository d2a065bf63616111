import Mathlib.Data.List.TakeWhile
import LedgerWire.Text.Ascii

/-!
Contract: ASCII texts and bytes below 128 are the same thing.

Owns:
- which byte strings `Ascii.decode` accepts, which texts `Ascii.encode?` does, and that each takes
  back what the other gives;
- that a text of ASCII characters holds no foreign run.

Does not own: what is said of foreign bytes and characters.
-/

namespace LedgerWire.Text.Ascii

theorem decode_eq_ok_iff {bytes : Bytes} {text : String} :
    decode bytes = .ok text ↔
      (∀ b ∈ bytes, b < 0x80) ∧ text = String.ofList (bytes.map fun b => Char.ofNat b.toNat) := by
  unfold decode
  cases found : bytes.findIdx? (0x80 ≤ ·) with
  | none =>
    have domestic : ∀ b ∈ bytes, b < 0x80 := by
      simpa [List.findIdx?_eq_none_iff] using found
    simp only [Except.ok.injEq]
    exact ⟨fun same => ⟨domestic, same.symm⟩, fun same => same.2.symm⟩
  | some position =>
    simp only [reduceCtorEq, false_iff, not_and]
    intro domestic
    have none : bytes.findIdx? (0x80 ≤ ·) = none := by
      simpa [List.findIdx?_eq_none_iff] using domestic
    rw [none] at found
    cases found

private theorem toNat_charOfNat {b : UInt8} (domestic : b < 0x80) :
    (Char.ofNat b.toNat).toNat = b.toNat := by
  have below : b.toNat < 0x80 := by simpa using UInt8.lt_iff_toNat_lt.mp domestic
  have valid : Nat.isValidChar b.toNat := Or.inl (by omega)
  rw [Char.ofNat, dif_pos valid]
  rfl

theorem encode?_of_decode {bytes : Bytes} {text : String} (decoded : decode bytes = .ok text) :
    encode? text = some bytes := by
  obtain ⟨domestic, rfl⟩ := decode_eq_ok_iff.mp decoded
  rw [encode?, String.toList_ofList]
  induction bytes with
  | nil => rfl
  | cons first rest inductionHypothesis =>
    have firstDomestic := domestic first (by simp)
    have restDomestic : ∀ b ∈ rest, b < 0x80 := fun b member => domestic b (by simp [member])
    have below : first.toNat < 0x80 := by simpa using UInt8.lt_iff_toNat_lt.mp firstDomestic
    rw [List.map_cons, List.mapM_cons, inductionHypothesis restDomestic
      (decode_eq_ok_iff.mpr ⟨restDomestic, rfl⟩), toNat_charOfNat firstDomestic, if_pos below]
    simp

private theorem mapM_of_ascii {chars : List Char} (domestic : ∀ c ∈ chars, c.toNat < 0x80) :
    (chars.mapM fun c => if c.toNat < 0x80 then some (UInt8.ofNat c.toNat) else none) =
      some (chars.map fun c => UInt8.ofNat c.toNat) := by
  induction chars with
  | nil => rfl
  | cons first rest inductionHypothesis =>
    rcases List.forall_mem_cons.mp domestic with ⟨firstDomestic, restDomestic⟩
    rw [List.mapM_cons, if_pos firstDomestic, inductionHypothesis restDomestic]
    rfl

private theorem ascii_of_mapM {chars : List Char} {bytes : Bytes}
    (encoded : (chars.mapM fun c => if c.toNat < 0x80 then some (UInt8.ofNat c.toNat) else none) =
      some bytes) :
    ∀ c ∈ chars, c.toNat < 0x80 := by
  induction chars generalizing bytes with
  | nil => exact List.forall_mem_nil _
  | cons first rest inductionHypothesis =>
    rw [List.mapM_cons] at encoded
    by_cases firstDomestic : first.toNat < 0x80
    · rw [if_pos firstDomestic] at encoded
      cases restEncoded : rest.mapM fun c => if c.toNat < 0x80 then some (UInt8.ofNat c.toNat)
        else none with
      | none =>
        rw [restEncoded] at encoded
        cases encoded
      | some restBytes =>
        exact List.forall_mem_cons.mpr ⟨firstDomestic, inductionHypothesis restEncoded⟩
    · rw [if_neg firstDomestic] at encoded
      cases encoded

theorem encode?_of_ascii {text : String} (domestic : ∀ c ∈ text.toList, c.toNat < 0x80) :
    encode? text = some (text.toList.map fun c => UInt8.ofNat c.toNat) :=
  mapM_of_ascii domestic

theorem ascii_of_encode? {text : String} {bytes : Bytes} (encoded : encode? text = some bytes) :
    ∀ c ∈ text.toList, c.toNat < 0x80 :=
  ascii_of_mapM encoded

theorem encode?_eq_some_iff {text : String} {bytes : Bytes} :
    encode? text = some bytes ↔ decode bytes = .ok text := by
  constructor
  · intro encoded
    have domestic := ascii_of_encode? encoded
    rw [encode?_of_ascii domestic] at encoded
    obtain rfl := Option.some.inj encoded
    have byte {c : Char} (member : c ∈ text.toList) : (UInt8.ofNat c.toNat).toNat = c.toNat := by
      have below := domestic c member
      simp only [UInt8.toNat_ofNat']
      omega
    rw [decode_eq_ok_iff]
    constructor
    · intro b member
      rcases List.mem_map.mp member with ⟨c, found, rfl⟩
      rw [UInt8.lt_iff_toNat_lt, byte found]
      exact domestic c found
    · have back : text.toList.map
          ((fun b : UInt8 => Char.ofNat b.toNat) ∘ fun c : Char => UInt8.ofNat c.toNat) =
          text.toList := by
        apply (List.map_congr_left _).trans (List.map_id _)
        intro c member
        rw [Function.comp_apply, byte member, Char.ofNat_toNat, id]
      rw [List.map_map, back, String.ofList_toList]
  · exact encode?_of_decode

theorem foreignRun?_of_ascii {text : String} (domestic : ∀ c ∈ text.toList, c.toNat < 0x80) :
    foreignRun? text = none := by
  have before : text.toList.takeWhile (fun c => c.toNat < 0x80) = text.toList := by
    rw [List.takeWhile_eq_self_iff]
    simpa using domestic
  rw [foreignRun?]
  simp only [before, List.drop_length, List.takeWhile_nil, List.isEmpty_nil, if_true]

end LedgerWire.Text.Ascii
