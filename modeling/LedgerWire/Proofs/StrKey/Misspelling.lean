import LedgerWire.Proofs.Hash.Crc16
import LedgerWire.Proofs.StrKey.Canonical

/-!
Contract: a slip in one character of a key text, or in two neighbours, is always noticed. Two
characters hold ten bits, and no change within ten bits leads from one key text to another of its
kind.

Owns:
- `StrKey.Misspelt`;
- the refusal of misspelt texts, for every kind and every payload.

Does not own: which fault is reported.
-/

namespace LedgerWire.StrKey

/-- Whether the other text is as long and differs, but only in one character or in two
neighbours. -/
def Misspelt (text other : String) : Prop :=
  other ≠ text ∧ other.length = text.length ∧
    ∃ place, ∀ index, index ≠ place → index ≠ place + 1 → other.toList[index]? = text.toList[index]?

theorem misspelt_swap (front back : List Char) {first second : Char} (different : first ≠ second) :
    Misspelt (String.ofList (front ++ first :: second :: back))
      (String.ofList (front ++ second :: first :: back)) := by
  refine ⟨?_, by simp [String.length_ofList], front.length, ?_⟩
  · intro same
    have chars := String.ofList_injective same
    rw [List.append_cancel_left_eq] at chars
    exact different (List.cons.inj chars).1.symm
  · intro index notFirst notSecond
    rw [String.toList_ofList, String.toList_ofList]
    rcases Nat.lt_or_ge index front.length with before | after
    · rw [List.getElem?_append_left before, List.getElem?_append_left before]
    · obtain ⟨further, rfl⟩ : ∃ further, index = front.length + (further + 2) :=
        ⟨index - front.length - 2, by omega⟩
      rw [List.getElem?_append_right after, List.getElem?_append_right after,
        Nat.add_sub_cancel_left]
      rfl

theorem bits_spelled (kind : Kind) (payload : Bytes) :
    (spelled kind payload).bits = Bytes.bits (kind.version :: payload) ++
      Crc16.checkBits ((Bytes.bits (kind.version :: payload)).foldl Crc16.feed 0#16) := by
  rw [spelled, Bytes.bits_append, Crc16.bits_littleEndian, Crc16.ofBytes_eq]

/-- Two key texts of a kind are the same if they differ in no more than two neighbouring
characters. -/
theorem eq_of_sameOutside {kind : Kind} {left right : Bytes} {place : Nat}
    (length : left.length = right.length)
    (same : SameOutside place 2 (encode kind left).toList (encode kind right).toList) :
    left = right := by
  have spelledLength : (spelled kind left).length = (spelled kind right).length := by
    rw [length_spelled, length_spelled, length]
  have bits := Base32.sameOutside_bits spelledLength same
  rw [bits_spelled, bits_spelled] at bits
  have messages := Crc16.eq_of_sameOutside (by simp [length]) bits
  exact (List.cons.inj (Bytes.eq_of_bits messages)).2

theorem decode_ne_ok_of_misspelt {kind : Kind} {payload result : Bytes} {other : String}
    (length : payload.length = kind.payloadLength)
    (misspelt : Misspelt (encode kind payload) other) :
    decode kind other ≠ .ok result := by
  intro decoded
  obtain ⟨different, sameLength, place, elsewhere⟩ := misspelt
  obtain ⟨resultLength, rfl⟩ := decode_eq_ok_iff.mp decoded
  have same : SameOutside place 2 (encode kind result).toList (encode kind payload).toList :=
    sameOutside_of_getElem? (by rw [String.length_toList, String.length_toList, sameLength])
      (fun index outside => elsewhere index (by omega) (by omega))
  apply different
  rw [eq_of_sameOutside (by rw [resultLength, length]) same]

/-- A text that differs from the key text of any payload in one character, or in two neighbours, is
refused as a key text of its kind, whatever stands there; so is one that differs from the text of a
muxed account with any number. -/
theorem decode_misspelt :
    (∀ kind payload other, payload.length = kind.payloadLength →
      Misspelt (encode kind payload) other →
      ∃ failure, decode kind other = .error failure) ∧
    (∀ key id text other, key.length = 32 → encodeMuxed? key id = .ok text → Misspelt text other →
      ∃ failure, decodeMuxed other = .error failure) := by
  have refused (kind : Kind) (payload : Bytes) (other : String)
      (length : payload.length = kind.payloadLength)
      (misspelt : Misspelt (encode kind payload) other) :
      ∃ failure, decode kind other = .error failure := by
    cases decoded : decode kind other with
    | ok result => exact absurd decoded (decode_ne_ok_of_misspelt length misspelt)
    | error failure => exact ⟨failure, rfl⟩
  refine ⟨refused, ?_⟩
  intro key id text other keyLength written misspelt
  rw [encodeMuxed?] at written
  split_ifs at written
  cases written
  obtain ⟨failure, decoded⟩ := refused .muxedAccount (Bytes.ofNatBE 8 id.toNat ++ key) other
    (by simp [keyLength, Kind.payloadLength]) misspelt
  refine ⟨failure, ?_⟩
  rw [decodeMuxed, decoded]
  rfl

/-- Two neighbours swapped in the account id of the key of zeros: the text is refused. -/
theorem decode_misspelt_swapped :
    let front := 'G' :: List.replicate 52 'A'
    encode .accountId (List.replicate 32 0) = String.ofList (front ++ ['W', 'H', 'F']) ∧
      ∃ failure, decode .accountId (String.ofList (front ++ ['H', 'W', 'F'])) = .error failure := by
  intro front
  have written : encode .accountId (List.replicate 32 0) =
      String.ofList (front ++ ['W', 'H', 'F']) := by
    decide +kernel
  refine ⟨written, decode_misspelt.1 .accountId (List.replicate 32 0) _ rfl ?_⟩
  rw [written]
  exact misspelt_swap front ['F'] (by decide)

end LedgerWire.StrKey
