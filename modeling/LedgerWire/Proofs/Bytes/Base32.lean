import LedgerWire.Bytes.Base32
import LedgerWire.Proofs.Bytes.Radix

/-!
Contract: base 32 texts of byte strings. A text is made of characters of the alphabet that stand for
five bits each; together they spell the bits of the bytes, with zeros to the end of the last
character.

Owns:
- the characters and the bits of `Base32.encode`, and its first character;
- `Base32.decode` as its inverse.

Does not own: texts that are read but never written.
-/

namespace LedgerWire.Base32

theorem regular_radix : radix.Regular where
  groupBits := rfl
  digitBits_pos := by decide
  digitBits_le := by decide
  groupBytes_pos := by decide

/-! ### The alphabet -/

theorem digitValue?_digitChar {digit : Nat} (below : digit < 32) :
    digitValue? (digitChar digit) = some digit := by
  have all : ∀ digit < 32, digitValue? (digitChar digit) = some digit := by decide
  exact all digit below

theorem digitChar_ne_padding {digit : Nat} (below : digit < 32) : digitChar digit ≠ '=' := by
  have all : ∀ digit < 32, digitChar digit ≠ '=' := by decide
  exact all digit below

theorem digitChar_ascii {digit : Nat} (below : digit < 32) : (digitChar digit).toNat < 0x80 := by
  have all : ∀ digit < 32, (digitChar digit).toNat < 0x80 := by decide
  exact all digit below

/-! ### Texts of byte strings -/

theorem toList_encode (bytes : Bytes) :
    (encode bytes).toList = (radix.digitsOf bytes).map digitChar := by
  rw [encode, String.toList_ofList]

theorem digitsOf_lt (bytes : Bytes) : ∀ digit ∈ radix.digitsOf bytes, digit < 32 :=
  radix.digitsOf_lt bytes

theorem encode_ascii (bytes : Bytes) : ∀ c ∈ (encode bytes).toList, c.toNat < 0x80 := by
  intro c member
  rw [toList_encode] at member
  obtain ⟨digit, inDigits, rfl⟩ := List.mem_map.mp member
  exact digitChar_ascii (digitsOf_lt bytes digit inDigits)

/-- The text of a byte string has the characters whose bits, five for each, are those of the bytes
and then fewer than five zeros. -/
theorem exists_digits_encode (bytes : Bytes) :
    ∃ digits filled, (encode bytes).toList = digits.map digitChar ∧ (∀ digit ∈ digits, digit < 32) ∧
      filled < 5 ∧ bitsOf 5 digits = bytes.bits ++ List.replicate filled false := by
  have bounds := regular_radix.digitCount_bounds bytes.length
  refine ⟨radix.digitsOf bytes, _, toList_encode bytes, digitsOf_lt bytes, ?_,
    regular_radix.bitsOf_digitsOf bytes⟩
  have width : radix.digitBits = 5 := rfl
  omega

/-- The first five bits of a byte string are its first character. -/
theorem head?_encode (first : UInt8) (rest : Bytes) :
    (encode (first :: rest)).toList.head? = some (digitChar (first.toNat / 8)) := by
  rcases exists_digits_encode (first :: rest) with ⟨digits, filled, spelled, below, -, bits⟩
  have split : bitsOf 5 digits = bitsBE 5 (first.toNat / 8) ++
      (bitsBE 3 first.toNat ++ (Bytes.bits rest ++ List.replicate filled false)) := by
    have byte : Bytes.bits (first :: rest) = bitsBE (5 + 3) first.toNat ++ Bytes.bits rest := rfl
    rw [bits, byte, bitsBE_add, List.append_assoc, List.append_assoc]
    rfl
  cases digits with
  | nil =>
    have lengths := congrArg List.length split
    simp only [bitsOf_nil, List.length_append, length_bitsBE, List.length_nil] at lengths
    omega
  | cons digit digits =>
    rw [bitsOf_cons] at split
    have leading := (List.append_inj split (by simp)).1
    have small : first.toNat / 8 < 2 ^ 5 := by
      have := first.toNat_lt
      omega
    have value := eq_of_bitsBE (below digit List.mem_cons_self) small leading
    rw [spelled, List.map_cons, List.head?_cons, value]

theorem dropWhile_padding {digits : List Nat} (below : ∀ digit ∈ digits, digit < 32) :
    ((digits.map digitChar).reverse.dropWhile (· == '=')).reverse = digits.map digitChar := by
  rcases List.eq_nil_or_concat digits with rfl | ⟨front, last, rfl⟩
  · rfl
  · have notPadding : (digitChar last == '=') = false := by
      simpa using digitChar_ne_padding (below last (by simp))
    simp [notPadding]

theorem mapM_digitValue? {digits : List Nat} (below : ∀ digit ∈ digits, digit < 32) :
    (digits.map digitChar).mapM digitValue? = some digits := by
  induction digits with
  | nil => rfl
  | cons digit digits inductionHypothesis =>
    rw [List.map_cons, List.mapM_cons, digitValue?_digitChar (below digit (by simp)),
      inductionHypothesis (fun d member => below d (by simp [member]))]
    rfl

theorem map_digitChar_injective {left right : List Nat} (leftBelow : ∀ digit ∈ left, digit < 32)
    (rightBelow : ∀ digit ∈ right, digit < 32) (same : left.map digitChar = right.map digitChar) :
    left = right := by
  have values := mapM_digitValue? leftBelow
  rw [same, mapM_digitValue? rightBelow] at values
  exact (Option.some.inj values).symm

/-- Texts that are the same but for some characters stand for bits that are the same but for five
for each. -/
theorem sameOutside_bits {left right : Bytes} {start width : Nat}
    (length : left.length = right.length)
    (same : SameOutside start width (encode left).toList (encode right).toList) :
    SameOutside (5 * start) (5 * width) left.bits right.bits := by
  have digits : SameOutside start width (radix.digitsOf left) (radix.digitsOf right) := by
    rw [toList_encode, toList_encode] at same
    refine ⟨?_, ?_, ?_⟩
    · simpa using same.length_eq
    · have front := same.front
      rw [← List.map_take, ← List.map_take] at front
      exact map_digitChar_injective
        (fun digit member => digitsOf_lt left digit (List.mem_of_mem_take member))
        (fun digit member => digitsOf_lt right digit (List.mem_of_mem_take member)) front
    · have back := same.back
      rw [← List.map_drop, ← List.map_drop] at back
      exact map_digitChar_injective
        (fun digit member => digitsOf_lt left digit (List.mem_of_mem_drop member))
        (fun digit member => digitsOf_lt right digit (List.mem_of_mem_drop member)) back
  -- without the fill at the end, the bits of the digits are those of the bytes
  have bits := (digits.bitsOf radix.digitBits).take left.bits.length
  rw [regular_radix.bitsOf_digitsOf, regular_radix.bitsOf_digitsOf, List.take_left,
    Bytes.length_bits, length, ← Bytes.length_bits, List.take_left] at bits
  exact bits

theorem decode_encode (bytes : Bytes) : decode (encode bytes) = .ok bytes := by
  have below := digitsOf_lt bytes
  have count : (radix.digitsOf bytes).length = (8 * bytes.length + 5 - 1) / 5 :=
    regular_radix.length_digitsOf bytes
  have groupSize : (radix.digitsOf bytes).length % 8 ∈ groupSizes := by
    rw [count, groupSizes]
    simp only [List.mem_cons, List.not_mem_nil, or_false]
    omega
  simp only [decode, toList_encode, dropWhile_padding below, mapM_digitValue? below,
    List.length_map]
  rw [if_neg, regular_radix.bytesOf_digitsOf]
  simp only [Bool.or_eq_true, decide_eq_true_eq, Bool.not_eq_true', List.contains_eq_mem, not_or]
  refine ⟨by omega, ?_⟩
  simpa using groupSize

/-- The text of five bytes needs no fill, that of one byte two bits of it. -/
example : encode [0x66, 0x6F, 0x6F, 0x62, 0x61] = "MZXW6YTB" ∧ encode [0x66] = "MY" := by
  decide +kernel

end LedgerWire.Base32
