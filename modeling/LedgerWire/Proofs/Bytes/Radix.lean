import LedgerWire.Proofs.Bytes.Bits

/-!
Contract: bytes regrouped into digits keep their bits, with fewer zero bits at the end than a digit
has; read back, the digits give the same bytes.

Owns:
- `Radix.Regular`, the groups that hold as many bits in bytes as in digits;
- the bits of `digitsOf`, and `bytesOf` as its inverse.

Does not own: digits that no byte string is written with.
-/

namespace LedgerWire

/-! ### Pieces -/

section

variable {α : Type} {size : Nat}

theorem pieces_nil : pieces size ([] : List α) = [] := by
  rw [pieces]
  rfl

theorem pieces_of_length_le {items : List α} (nonempty : items ≠ [])
    (atMost : items.length ≤ size) :
    pieces size items = [items] := by
  have positive : size ≠ 0 := by
    have := List.length_pos_iff.mpr nonempty
    omega
  rw [pieces, if_neg (by simp [nonempty, positive]), List.take_of_length_le atMost,
    List.drop_of_length_le atMost, pieces_nil]

theorem pieces_append {group : List α} (rest : List α) (positive : 0 < size)
    (full : group.length = size) :
    pieces size (group ++ rest) = group :: pieces size rest := by
  have nonempty : group ≠ [] := by
    rintro rfl
    rw [List.length_nil] at full
    omega
  rw [pieces, if_neg (by simp [nonempty, Nat.ne_of_gt positive]), ← full, List.take_left,
    List.drop_left]

/-- What holds of lists of at most `size` elements, and with such a list in front of any for which
it holds already, holds of all lists. -/
theorem induction_of_pieces {motive : List α → Prop} (positive : 0 < size)
    (short : ∀ items, items.length ≤ size → motive items)
    (front : ∀ group rest, group.length = size → motive rest → motive (group ++ rest)) :
    ∀ items, motive items := by
  intro items
  induction length : items.length using Nat.strong_induction_on generalizing items with
  | _ length inductionHypothesis =>
    rcases Nat.le_total items.length size with atMost | atLeast
    · exact short items atMost
    · have rest : motive (items.drop size) := by
        rcases Nat.eq_zero_or_pos items.length with none | some
        · exact short _ (by rw [List.length_drop]; omega)
        · exact inductionHypothesis _ (by rw [List.length_drop]; omega) _ rfl
      rw [← List.take_append_drop size items]
      exact front _ _ (List.length_take_of_le atLeast) rest

end

namespace Radix

theorem groupDigitsOf_lt (radix : Radix) (group : Bytes) :
    ∀ digit ∈ radix.groupDigitsOf group, digit < 2 ^ radix.digitBits := by
  intro digit member
  exact digitsBE_lt (Nat.two_pow_pos radix.digitBits) _ _ digit (List.mem_of_mem_take member)

theorem digitsOf_lt (radix : Radix) (bytes : Bytes) :
    ∀ digit ∈ radix.digitsOf bytes, digit < 2 ^ radix.digitBits := by
  intro digit member
  obtain ⟨group, -, inGroup⟩ := List.mem_flatMap.mp member
  exact groupDigitsOf_lt radix group digit inGroup

theorem bytesOf_of_length_le {radix : Radix} {digits : List Nat}
    (atMost : digits.length ≤ radix.groupDigits) :
    radix.bytesOf digits = radix.groupBytesOf digits := by
  rcases List.eq_nil_or_concat digits with rfl | ⟨_, _, rfl⟩
  · rw [bytesOf, pieces_nil, List.flatMap_nil, groupBytesOf, List.length_nil, byteCount,
      Nat.mul_zero, Nat.zero_div, List.take_zero]
  · rw [bytesOf, pieces_of_length_le (by simp) atMost, List.flatMap_singleton]

/-- Groups of bytes and groups of digits hold equally many bits, and a digit no more than a byte. -/
structure Regular (radix : Radix) : Prop where
  groupBits : radix.digitBits * radix.groupDigits = 8 * radix.groupBytes
  digitBits_pos : 0 < radix.digitBits
  digitBits_le : radix.digitBits ≤ 8
  groupBytes_pos : 0 < radix.groupBytes

namespace Regular

variable {radix : Radix} (regular : radix.Regular)

include regular

/-! ### Counts -/

theorem groupDigits_pos : 0 < radix.groupDigits := by
  have groupBits := regular.groupBits
  have positive := regular.groupBytes_pos
  rcases Nat.eq_zero_or_pos radix.groupDigits with zero | some
  · rw [zero, Nat.mul_zero] at groupBits
    omega
  · exact some

theorem digitCount_bounds (count : Nat) :
    8 * count ≤ radix.digitBits * radix.digitCount count ∧
      radix.digitBits * radix.digitCount count < 8 * count + radix.digitBits := by
  have positive := regular.digitBits_pos
  have division := Nat.div_add_mod (8 * count + radix.digitBits - 1) radix.digitBits
  have remainder := Nat.mod_lt (8 * count + radix.digitBits - 1) positive
  rw [digitCount]
  omega

theorem digitCount_zero : radix.digitCount 0 = 0 := by
  have positive := regular.digitBits_pos
  exact Nat.div_eq_of_lt (by omega)

theorem digitCount_groupBytes_add (count : Nat) :
    radix.digitCount (radix.groupBytes + count) = radix.groupDigits + radix.digitCount count := by
  have positive := regular.digitBits_pos
  have split : 8 * (radix.groupBytes + count) + radix.digitBits - 1 =
      radix.digitBits * radix.groupDigits + (8 * count + radix.digitBits - 1) := by
    rw [regular.groupBits]
    omega
  rw [digitCount, split, Nat.mul_add_div positive]
  rfl

theorem digitCount_groupBytes : radix.digitCount radix.groupBytes = radix.groupDigits := by
  have whole := regular.digitCount_groupBytes_add 0
  rwa [regular.digitCount_zero, Nat.add_zero, Nat.add_zero] at whole

theorem digitCount_le {count : Nat} (atMost : count ≤ radix.groupBytes) :
    radix.digitCount count ≤ radix.groupDigits := by
  calc radix.digitCount count ≤ radix.digitCount radix.groupBytes :=
        Nat.div_le_div_right (by omega)
    _ = radix.groupDigits := regular.digitCount_groupBytes

theorem byteCount_digitCount (count : Nat) : radix.byteCount (radix.digitCount count) = count := by
  have bounds := regular.digitCount_bounds count
  have atMost := regular.digitBits_le
  rw [byteCount]
  omega

theorem byteCount_groupDigits_add (count : Nat) :
    radix.byteCount (radix.groupDigits + count) = radix.groupBytes + radix.byteCount count := by
  rw [byteCount, Nat.mul_add, regular.groupBits, Nat.mul_add_div (by decide)]
  rfl

theorem byteCount_groupDigits : radix.byteCount radix.groupDigits = radix.groupBytes := by
  rw [byteCount, regular.groupBits, Nat.mul_div_cancel_left _ (by decide)]

/-! ### One group -/

section

variable {group : Bytes} (atMost : group.length ≤ radix.groupBytes)

include atMost

theorem bitsOf_groupDigitsOf :
    bitsOf radix.digitBits (radix.groupDigitsOf group) =
      group.bits ++ List.replicate
      (radix.digitBits * radix.digitCount group.length - 8 * group.length) false := by
  have filled : group.length + (radix.groupBytes - group.length) = radix.groupBytes := by omega
  have bounds := regular.digitCount_bounds group.length
  have fits := Nat.mul_le_mul_left radix.digitBits (regular.digitCount_le atMost)
  rw [regular.groupBits] at fits
  -- a short group is filled with zero bytes, and the digits that only these account for are left
  -- out
  let full : Bytes := group ++ List.replicate (radix.groupBytes - group.length) 0
  have fullLength : full.length = radix.groupBytes := by
    rw [List.length_append, List.length_replicate, filled]
  have spelled :
      bitsOf radix.digitBits (digitsBE radix.base radix.groupDigits (Bytes.toNatBE full)) =
      full.bits := by
    rw [base, bitsOf_digitsBE, regular.groupBits, ← fullLength, Bytes.bitsBE_toNatBE]
  change bitsOf radix.digitBits
    ((digitsBE radix.base radix.groupDigits (Bytes.toNatBE full)).take _) = _
  rw [bitsOf_take, spelled, Bytes.bits_append, Bytes.bits_replicate_zero, List.take_append,
    Bytes.length_bits, List.take_of_length_le (by rw [Bytes.length_bits]; exact bounds.1),
    List.take_replicate, Nat.min_eq_left (by omega)]

theorem length_groupDigitsOf :
    (radix.groupDigitsOf group).length = radix.digitCount group.length := by
  rw [groupDigitsOf, List.length_take, length_digitsBE,
    Nat.min_eq_left (regular.digitCount_le atMost)]

end

/-- The bytes of a group of digits have the bits of the digits, as far as they fill bytes. -/
theorem bits_groupBytesOf {digits : List Nat} (atMost : digits.length ≤ radix.groupDigits)
    (below : ∀ digit ∈ digits, digit < 2 ^ radix.digitBits) :
    (radix.groupBytesOf digits).bits =
      (bitsOf radix.digitBits digits).take (8 * radix.byteCount digits.length) := by
  let full : List Nat := digits ++ List.replicate (radix.groupDigits - digits.length) 0
  have fullLength : full.length = radix.groupDigits := by
    rw [List.length_append, List.length_replicate]
    omega
  have fullBelow : ∀ digit ∈ full, digit < 2 ^ radix.digitBits := by
    intro digit member
    rcases List.mem_append.mp member with given | filled
    · exact below digit given
    · rw [List.eq_of_mem_replicate filled]
      exact Nat.two_pow_pos _
  have spelled : (Bytes.ofNatBE radix.groupBytes (ofDigitsBE radix.base full)).bits =
      bitsOf radix.digitBits full := by
    rw [Bytes.bits_ofNatBE, ← regular.groupBits, ← fullLength, base, bitsBE_ofDigitsBE fullBelow]
  have whole : 8 * radix.byteCount digits.length ≤ (bitsOf radix.digitBits digits).length := by
    rw [length_bitsOf, byteCount]
    omega
  change Bytes.bits ((Bytes.ofNatBE radix.groupBytes (ofDigitsBE radix.base full)).take _) = _
  rw [Bytes.bits_take, spelled, bitsOf_append, List.take_append_of_le_length whole]

theorem groupBytesOf_groupDigitsOf {group : Bytes} (atMost : group.length ≤ radix.groupBytes) :
    radix.groupBytesOf (radix.groupDigitsOf group) = group := by
  have length := regular.length_groupDigitsOf atMost
  apply Bytes.eq_of_bits
  rw [regular.bits_groupBytesOf (by rw [length]; exact regular.digitCount_le atMost)
      (groupDigitsOf_lt radix group), length, regular.byteCount_digitCount,
    regular.bitsOf_groupDigitsOf atMost, ← Bytes.length_bits, List.take_left]

/-! ### Group by group -/

theorem digitsOf_of_length_le {bytes : Bytes} (atMost : bytes.length ≤ radix.groupBytes) :
    radix.digitsOf bytes = radix.groupDigitsOf bytes := by
  rcases List.eq_nil_or_concat bytes with rfl | ⟨_, _, rfl⟩
  · have length : (radix.groupDigitsOf []).length = radix.digitCount 0 :=
      regular.length_groupDigitsOf (by simp)
    rw [regular.digitCount_zero] at length
    rw [digitsOf, pieces_nil, List.flatMap_nil, List.length_eq_zero_iff.mp length]
  · rw [digitsOf, pieces_of_length_le (by simp) atMost, List.flatMap_singleton]

theorem digitsOf_append {group : Bytes} (rest : Bytes) (full : group.length = radix.groupBytes) :
    radix.digitsOf (group ++ rest) = radix.groupDigitsOf group ++ radix.digitsOf rest := by
  rw [digitsOf, pieces_append rest regular.groupBytes_pos full, List.flatMap_cons]
  rfl

theorem bytesOf_append {group : List Nat} (rest : List Nat)
    (full : group.length = radix.groupDigits) :
    radix.bytesOf (group ++ rest) = radix.groupBytesOf group ++ radix.bytesOf rest := by
  rw [bytesOf, pieces_append rest regular.groupDigits_pos full, List.flatMap_cons]
  rfl

theorem length_digitsOf (bytes : Bytes) :
    (radix.digitsOf bytes).length = radix.digitCount bytes.length := by
  induction bytes using induction_of_pieces regular.groupBytes_pos with
  | short bytes atMost =>
    rw [regular.digitsOf_of_length_le atMost, regular.length_groupDigitsOf atMost]
  | front group rest full inductionHypothesis =>
    rw [regular.digitsOf_append rest full, List.length_append, inductionHypothesis,
      regular.length_groupDigitsOf full.le, full, List.length_append, full,
      regular.digitCount_groupBytes_add, regular.digitCount_groupBytes]

/-- The digits of a byte string spell its bits, and then zeros to the end of the last digit. -/
theorem bitsOf_digitsOf (bytes : Bytes) :
    bitsOf radix.digitBits (radix.digitsOf bytes) =
      bytes.bits ++ List.replicate
      (radix.digitBits * radix.digitCount bytes.length - 8 * bytes.length) false := by
  induction bytes using induction_of_pieces regular.groupBytes_pos with
  | short bytes atMost =>
    rw [regular.digitsOf_of_length_le atMost, regular.bitsOf_groupDigitsOf atMost]
  | front group rest full inductionHypothesis =>
    have groupBits := regular.groupBits
    have noFill : radix.digitBits * radix.digitCount group.length - 8 * group.length = 0 := by
      rw [full, regular.digitCount_groupBytes]
      omega
    have sameFill : radix.digitBits * radix.digitCount (radix.groupBytes + rest.length) -
        8 * (radix.groupBytes + rest.length) =
          radix.digitBits * radix.digitCount rest.length - 8 * rest.length := by
      rw [regular.digitCount_groupBytes_add, Nat.mul_add]
      omega
    rw [regular.digitsOf_append rest full, bitsOf_append, inductionHypothesis,
      regular.bitsOf_groupDigitsOf full.le, noFill, List.replicate_zero, List.append_nil,
      Bytes.bits_append, List.length_append, full, sameFill, List.append_assoc]

theorem bytesOf_digitsOf (bytes : Bytes) : radix.bytesOf (radix.digitsOf bytes) = bytes := by
  induction bytes using induction_of_pieces regular.groupBytes_pos with
  | short bytes atMost =>
    have length := regular.length_groupDigitsOf atMost
    rw [regular.digitsOf_of_length_le atMost,
      bytesOf_of_length_le (by rw [length]; exact regular.digitCount_le atMost),
      regular.groupBytesOf_groupDigitsOf atMost]
  | front group rest full inductionHypothesis =>
    have length := regular.length_groupDigitsOf full.le
    rw [full, regular.digitCount_groupBytes] at length
    rw [regular.digitsOf_append rest full, regular.bytesOf_append _ length, inductionHypothesis,
      regular.groupBytesOf_groupDigitsOf full.le]

/-! ### Digits that are read -/

section

variable {digits : List Nat} (below : ∀ digit ∈ digits, digit < 2 ^ radix.digitBits)

include below

/-- The bytes of digits have the bits of the digits, as far as they fill bytes. -/
theorem bits_bytesOf :
    (radix.bytesOf digits).bits =
      (bitsOf radix.digitBits digits).take (8 * radix.byteCount digits.length) := by
  induction digits using induction_of_pieces regular.groupDigits_pos with
  | short digits atMost =>
    rw [bytesOf_of_length_le atMost, regular.bits_groupBytesOf atMost below]
  | front group rest full inductionHypothesis =>
    have groupBelow : ∀ digit ∈ group, digit < 2 ^ radix.digitBits :=
      fun digit member => below digit (List.mem_append_left rest member)
    have restBelow : ∀ digit ∈ rest, digit < 2 ^ radix.digitBits :=
      fun digit member => below digit (List.mem_append_right group member)
    have groupBits : 8 * radix.groupBytes = (bitsOf radix.digitBits group).length := by
      rw [length_bitsOf, full, regular.groupBits]
    rw [regular.bytesOf_append rest full, Bytes.bits_append, inductionHypothesis restBelow,
      regular.bits_groupBytesOf full.le groupBelow, full, regular.byteCount_groupDigits, groupBits,
      List.take_length, bitsOf_append, List.length_append, full, regular.byteCount_groupDigits_add,
      Nat.mul_add, groupBits, List.take_length_add_append]

theorem length_bytesOf : (radix.bytesOf digits).length = radix.byteCount digits.length := by
  have lengths := congrArg List.length (regular.bits_bytesOf below)
  rw [Bytes.length_bits, List.length_take, length_bitsOf, byteCount] at lengths
  rw [byteCount]
  omega

/-- Digits that hold no more than their bytes need are the digits of their bytes exactly if the bits
of the last digit that belong to no byte are zeros. -/
theorem digitsOf_bytesOf_iff
    (complete : radix.digitCount (radix.byteCount digits.length) = digits.length) :
    radix.digitsOf (radix.bytesOf digits) = digits ↔
      ∀ last ∈ digits.getLast?, 2 ^ (radix.digitBits * digits.length % 8) ∣ last := by
  have bounds := regular.digitCount_bounds (radix.byteCount digits.length)
  rw [complete] at bounds
  have spelled := regular.bitsOf_digitsOf (radix.bytesOf digits)
  rw [regular.length_bytesOf below, complete, regular.bits_bytesOf below] at spelled
  -- both digit strings have the same complete bytes, so they differ at most in the bits after these
  have sameBits : radix.digitsOf (radix.bytesOf digits) = digits ↔
      (bitsOf radix.digitBits digits).drop (8 * radix.byteCount digits.length) =
        List.replicate (radix.digitBits * digits.length - 8 * radix.byteCount digits.length)
        false := by
    constructor
    · intro same
      rw [same] at spelled
      nth_rewrite 1 [← List.take_append_drop (8 * radix.byteCount digits.length)
        (bitsOf radix.digitBits digits)] at spelled
      exact List.append_cancel_left spelled
    · intro spare
      rw [← spare, List.take_append_drop] at spelled
      exact eq_of_bitsOf regular.digitBits_pos (radix.digitsOf_lt _) below spelled
  rw [sameBits]
  rcases List.eq_nil_or_concat digits with rfl | ⟨front, last, rfl⟩
  · simp
  · rw [List.concat_eq_append] at bounds ⊢
    have length : (front ++ [last]).length = front.length + 1 := by simp
    rw [length] at bounds ⊢
    have spare : radix.digitBits * (front.length + 1) - 8 * radix.byteCount (front.length + 1) =
        radix.digitBits * (front.length + 1) % 8 := by
      rw [byteCount]
      omega
    have place : 8 * radix.byteCount (front.length + 1) =
        radix.digitBits * front.length +
        (radix.digitBits - radix.digitBits * (front.length + 1) % 8) := by
      rw [Nat.mul_succ] at bounds spare ⊢
      omega
    have within : radix.digitBits * (front.length + 1) % 8 ≤ radix.digitBits := by omega
    rw [spare, place, drop_bitsOf_concat within, bitsBE_eq_replicate_iff]
    simp

end

end Regular

end Radix

end LedgerWire
