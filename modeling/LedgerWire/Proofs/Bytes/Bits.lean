import Mathlib.Tactic
import LedgerWire.Bytes.Radix

/-!
Contract: the bits of numbers, most significant first. Digits of a base that is a power of two spell
the bits of their number, so byte strings and digit strings are compared by their bits.

Owns:
- `bitsBE` and its laws: parts, exclusive or, uniqueness;
- the bits of a list of digits, and of the digits and bytes of a number.

Does not own: how bytes are grouped.
-/

namespace LedgerWire

/-! ### The bits of a number -/

/-- The last `width` binary digits of a number, the most significant first. -/
def bitsBE : (width : Nat) → Nat → List Bool
  | 0, _ => []
  | width + 1, n => n.testBit width :: bitsBE width n

@[simp] theorem length_bitsBE (width n : Nat) : (bitsBE width n).length = width := by
  induction width with
  | zero => rfl
  | succ width inductionHypothesis => rw [bitsBE, List.length_cons, inductionHypothesis]

theorem bitsBE_add (high low n : Nat) :
    bitsBE (high + low) n = bitsBE high (n / 2 ^ low) ++ bitsBE low n := by
  induction high with
  | zero => simp [bitsBE]
  | succ high inductionHypothesis =>
    rw [Nat.succ_add, bitsBE, bitsBE, inductionHypothesis, Nat.testBit_div_two_pow,
      List.cons_append]

theorem bitsBE_congr {width n m : Nat} (same : ∀ place < width, n.testBit place = m.testBit place) :
    bitsBE width n = bitsBE width m := by
  induction width with
  | zero => rfl
  | succ width inductionHypothesis =>
    rw [bitsBE, bitsBE, same width (by omega),
      inductionHypothesis (fun place below => same place (by omega))]

theorem bitsBE_mod {width place : Nat} (within : width ≤ place) (n : Nat) :
    bitsBE width (n % 2 ^ place) = bitsBE width n := by
  apply bitsBE_congr
  intro bit below
  rw [Nat.testBit_mod_two_pow, decide_eq_true (by omega), Bool.true_and]

theorem bitsBE_zero (width : Nat) : bitsBE width 0 = List.replicate width false := by
  induction width with
  | zero => rfl
  | succ width inductionHypothesis =>
    rw [bitsBE, inductionHypothesis, Nat.zero_testBit, List.replicate_succ]

theorem bitsBE_xor (width n m : Nat) :
    bitsBE width (n ^^^ m) = List.zipWith xor (bitsBE width n) (bitsBE width m) := by
  induction width with
  | zero => rfl
  | succ width inductionHypothesis =>
    rw [bitsBE, bitsBE, bitsBE, List.zipWith_cons_cons, inductionHypothesis, Nat.testBit_xor]

theorem eq_of_bitsBE {width n m : Nat} (nBelow : n < 2 ^ width) (mBelow : m < 2 ^ width)
    (same : bitsBE width n = bitsBE width m) : n = m := by
  induction width generalizing n m with
  | zero => omega
  | succ width inductionHypothesis =>
    rw [bitsBE, bitsBE, List.cons.injEq] at same
    have lower : n % 2 ^ width = m % 2 ^ width := by
      apply inductionHypothesis (Nat.mod_lt _ (by positivity)) (Nat.mod_lt _ (by positivity))
      rw [bitsBE_mod le_rfl, bitsBE_mod le_rfl, same.2]
    have higher : n / 2 ^ width = m / 2 ^ width := by
      have bit := congrArg Bool.toNat same.1
      rwa [Nat.toNat_testBit, Nat.toNat_testBit,
        Nat.mod_eq_of_lt (Nat.div_lt_of_lt_mul (by rwa [← Nat.pow_succ])),
        Nat.mod_eq_of_lt (Nat.div_lt_of_lt_mul (by rwa [← Nat.pow_succ]))] at bit
    rw [← Nat.div_add_mod n (2 ^ width), ← Nat.div_add_mod m (2 ^ width), lower, higher]

theorem bitsBE_eq_replicate_iff {width n : Nat} :
    bitsBE width n = List.replicate width false ↔ 2 ^ width ∣ n := by
  rw [← bitsBE_zero, ← bitsBE_mod le_rfl n, Nat.dvd_iff_mod_eq_zero]
  constructor
  · intro same
    exact eq_of_bitsBE (Nat.mod_lt _ (by positivity)) (by positivity) same
  · intro zero
    rw [zero]

/-! ### The bits of digits -/

/-- The bits of digits of `width` bits each. -/
def bitsOf (width : Nat) (digits : List Nat) : List Bool := digits.flatMap (bitsBE width)

@[simp] theorem bitsOf_nil (width : Nat) : bitsOf width [] = [] := rfl

@[simp] theorem bitsOf_cons (width digit : Nat) (digits : List Nat) :
    bitsOf width (digit :: digits) = bitsBE width digit ++ bitsOf width digits := rfl

@[simp] theorem bitsOf_append (width : Nat) (front back : List Nat) :
    bitsOf width (front ++ back) = bitsOf width front ++ bitsOf width back := by
  rw [bitsOf, List.flatMap_append]
  rfl

@[simp] theorem length_bitsOf (width : Nat) (digits : List Nat) :
    (bitsOf width digits).length = width * digits.length := by
  induction digits with
  | nil => rfl
  | cons digit digits inductionHypothesis =>
    rw [bitsOf_cons, List.length_append, length_bitsBE, inductionHypothesis, List.length_cons,
      Nat.mul_succ, Nat.add_comm]

theorem bitsOf_take (width count : Nat) (digits : List Nat) :
    bitsOf width (digits.take count) = (bitsOf width digits).take (width * count) := by
  rcases Nat.le_total count digits.length with within | beyond
  · have split := congrArg (bitsOf width) (List.take_append_drop count digits)
    rw [bitsOf_append] at split
    have length : (bitsOf width (digits.take count)).length = width * count := by
      rw [length_bitsOf, List.length_take_of_le within]
    rw [← split, ← length, List.take_left]
  · rw [List.take_of_length_le beyond, List.take_of_length_le]
    rw [length_bitsOf]
    exact Nat.mul_le_mul_left width beyond

theorem bitsOf_drop (width count : Nat) (digits : List Nat) :
    bitsOf width (digits.drop count) = (bitsOf width digits).drop (width * count) := by
  rcases Nat.le_total count digits.length with within | beyond
  · have split := congrArg (bitsOf width) (List.take_append_drop count digits)
    rw [bitsOf_append] at split
    have length : (bitsOf width (digits.take count)).length = width * count := by
      rw [length_bitsOf, List.length_take_of_le within]
    rw [← split, ← length, List.drop_left]
  · rw [List.drop_of_length_le beyond, List.drop_of_length_le, bitsOf_nil]
    rw [length_bitsOf]
    exact Nat.mul_le_mul_left width beyond

theorem bitsOf_replicate_zero (width count : Nat) :
    bitsOf width (List.replicate count 0) = List.replicate (width * count) false := by
  induction count with
  | zero => rfl
  | succ count inductionHypothesis =>
    rw [List.replicate_succ, bitsOf_cons, inductionHypothesis, bitsBE_zero,
      List.replicate_append_replicate, Nat.mul_succ, Nat.add_comm]

/-- The last bits of the last digit stand at the end. -/
theorem drop_bitsOf_concat {width spare : Nat} (within : spare ≤ width) (front : List Nat)
    (last : Nat) :
    (bitsOf width (front ++ [last])).drop (width * front.length + (width - spare)) =
      bitsBE spare last := by
  have split : bitsBE width last =
      bitsBE (width - spare) (last / 2 ^ spare) ++ bitsBE spare last := by
    rw [← bitsBE_add, Nat.sub_add_cancel within]
  have high : (bitsBE (width - spare) (last / 2 ^ spare)).length = width - spare :=
    length_bitsBE _ _
  rw [bitsOf_append, bitsOf_cons, bitsOf_nil, List.append_nil, split, ← length_bitsOf,
    List.drop_length_add_append, List.drop_left' high]

theorem eq_of_bitsOf {width : Nat} {left right : List Nat} (positive : 0 < width)
    (leftBelow : ∀ digit ∈ left, digit < 2 ^ width)
    (rightBelow : ∀ digit ∈ right, digit < 2 ^ width)
    (same : bitsOf width left = bitsOf width right) : left = right := by
  induction left generalizing right with
  | nil =>
    -- no bits are left for the other list, and every digit has some
    have lengths := congrArg List.length same
    rw [length_bitsOf, length_bitsOf, List.length_nil, Nat.mul_zero] at lengths
    have none : right.length = 0 := by
      rcases Nat.mul_eq_zero.mp lengths.symm with zero | zero <;> omega
    exact (List.length_eq_zero_iff.mp none).symm
  | cons digit left inductionHypothesis =>
    cases right with
    | nil =>
      have lengths := congrArg List.length same
      rw [bitsOf_cons, List.length_append, length_bitsBE, bitsOf_nil, List.length_nil] at lengths
      omega
    | cons other right =>
      obtain ⟨first, rest⟩ := List.append_inj same (by simp)
      rw [eq_of_bitsBE (leftBelow digit (by simp)) (rightBelow other (by simp)) first,
        inductionHypothesis (fun d member => leftBelow d (by simp [member]))
          (fun d member => rightBelow d (by simp [member])) rest]

/-! ### Changes within a window -/

/-- Whether two lists are the same but for `width` places from `start` on. -/
structure SameOutside {α : Type} (start width : Nat) (left right : List α) : Prop where
  length_eq : left.length = right.length
  front : left.take start = right.take start
  back : left.drop (start + width) = right.drop (start + width)

theorem sameOutside_of_getElem? {α : Type} {start width : Nat} {left right : List α}
    (length : left.length = right.length)
    (same : ∀ place, place < start ∨ start + width ≤ place → left[place]? = right[place]?) :
    SameOutside start width left right where
  length_eq := length
  front := by
    apply List.ext_getElem?
    intro place
    rw [List.getElem?_take, List.getElem?_take]
    split_ifs with before
    · exact same place (Or.inl before)
    · rfl
  back := by
    apply List.ext_getElem?
    intro place
    rw [List.getElem?_drop, List.getElem?_drop]
    exact same _ (Or.inr (Nat.le_add_right _ _))

theorem SameOutside.bitsOf {start width : Nat} {left right : List Nat}
    (same : SameOutside start width left right) (digitBits : Nat) :
    SameOutside (digitBits * start) (digitBits * width) (bitsOf digitBits left)
      (bitsOf digitBits right) where
  length_eq := by rw [length_bitsOf, length_bitsOf, same.length_eq]
  front := by rw [← bitsOf_take, ← bitsOf_take, same.front]
  back := by rw [← Nat.mul_add, ← bitsOf_drop, ← bitsOf_drop, same.back]

theorem SameOutside.take {α : Type} {start width : Nat} {left right : List α}
    (same : SameOutside start width left right) (count : Nat) :
    SameOutside start width (left.take count) (right.take count) where
  length_eq := by rw [List.length_take, List.length_take, same.length_eq]
  front := by
    rw [List.take_take, List.take_take, Nat.min_comm, ← List.take_take,
      ← List.take_take, same.front]
  back := by rw [List.drop_take, List.drop_take, same.back]

/-! ### The digits of a number -/

@[simp] theorem length_digitsBE (base width n : Nat) : (digitsBE base width n).length = width := by
  induction width generalizing n with
  | zero => rfl
  | succ width inductionHypothesis => simp [digitsBE, inductionHypothesis]

theorem digitsBE_lt {base : Nat} (positive : 0 < base) (width n : Nat) :
    ∀ digit ∈ digitsBE base width n, digit < base := by
  induction width generalizing n with
  | zero => simp [digitsBE]
  | succ width inductionHypothesis =>
    intro digit member
    rw [digitsBE, List.mem_append, List.mem_singleton] at member
    rcases member with higher | rfl
    · exact inductionHypothesis _ digit higher
    · exact Nat.mod_lt _ positive

theorem bitsOf_digitsBE (width count n : Nat) :
    bitsOf width (digitsBE (2 ^ width) count n) = bitsBE (width * count) n := by
  induction count generalizing n with
  | zero => rfl
  | succ count inductionHypothesis =>
    rw [digitsBE, bitsOf_append, inductionHypothesis, Nat.mul_succ, bitsBE_add,
      bitsOf_cons, bitsOf_nil, List.append_nil, bitsBE_mod le_rfl]

@[simp] theorem ofDigitsBE_concat (base : Nat) (digits : List Nat) (last : Nat) :
    ofDigitsBE base (digits ++ [last]) = ofDigitsBE base digits * base + last := by
  simp [ofDigitsBE]

theorem bitsBE_ofDigitsBE {width : Nat} {digits : List Nat}
    (below : ∀ digit ∈ digits, digit < 2 ^ width) :
    bitsBE (width * digits.length) (ofDigitsBE (2 ^ width) digits) = bitsOf width digits := by
  induction digits using List.reverseRecOn with
  | nil => rfl
  | append_singleton digits last inductionHypothesis =>
    have lastBelow : last < 2 ^ width := below last (by simp)
    have restBelow : ∀ digit ∈ digits, digit < 2 ^ width := fun digit member =>
      below digit (by simp [member])
    have higher : (ofDigitsBE (2 ^ width) digits * 2 ^ width + last) / 2 ^ width =
        ofDigitsBE (2 ^ width) digits := by
      rw [Nat.mul_comm, Nat.mul_add_div (by positivity), Nat.div_eq_of_lt lastBelow, Nat.add_zero]
    have lowest : bitsBE width (ofDigitsBE (2 ^ width) digits * 2 ^ width + last) =
        bitsBE width last := by
      rw [← bitsBE_mod le_rfl, Nat.mul_comm, Nat.mul_add_mod, Nat.mod_eq_of_lt lastBelow]
    rw [List.length_append, List.length_singleton, Nat.mul_succ, ofDigitsBE_concat,
      bitsBE_add, higher, lowest, inductionHypothesis restBelow, bitsOf_append, bitsOf_cons,
      bitsOf_nil, List.append_nil]

/-! ### The bits of bytes -/

namespace Bytes

def values (bytes : Bytes) : List Nat := bytes.map UInt8.toNat

/-- The bits of some bytes. -/
def bits (bytes : Bytes) : List Bool := bitsOf 8 bytes.values

@[simp] theorem bits_append (front back : Bytes) :
    bits (front ++ back) = bits front ++ bits back := by
  simp [bits, values]

@[simp] theorem length_bits (bytes : Bytes) : (bits bytes).length = 8 * bytes.length := by
  simp [bits, values]

theorem values_lt (bytes : Bytes) : ∀ value ∈ bytes.values, value < 2 ^ 8 := by
  intro value member
  obtain ⟨b, -, rfl⟩ := List.mem_map.mp member
  exact b.toNat_lt

theorem eq_of_bits {left right : Bytes} (same : left.bits = right.bits) : left = right :=
  List.map_injective_iff.mpr (fun _ _ => UInt8.toNat.inj)
    (eq_of_bitsOf (by decide) left.values_lt right.values_lt same)

theorem bits_take (bytes : Bytes) (count : Nat) :
    bits (bytes.take count) = bytes.bits.take (8 * count) := by
  rw [bits, values, List.map_take, bitsOf_take]
  rfl

theorem bits_replicate_zero (count : Nat) :
    bits (List.replicate count 0) = List.replicate (8 * count) false := by
  rw [bits, values, List.map_replicate]
  exact bitsOf_replicate_zero 8 count

theorem toNatBE_eq_ofDigitsBE (bytes : Bytes) :
    toNatBE bytes = ofDigitsBE (2 ^ 8) bytes.values := by
  rw [toNatBE, ofDigitsBE, values, List.foldl_map]
  rfl

theorem values_ofNatBE (width n : Nat) : (ofNatBE width n).values = digitsBE (2 ^ 8) width n := by
  induction width generalizing n with
  | zero => rfl
  | succ width inductionHypothesis =>
    rw [ofNatBE, digitsBE, ← inductionHypothesis, values, List.map_append, List.map_singleton,
      UInt8.toNat_ofNat']
    rfl

theorem bitsBE_toNatBE (bytes : Bytes) :
    bitsBE (8 * bytes.length) (toNatBE bytes) = bytes.bits := by
  have spelled := bitsBE_ofDigitsBE bytes.values_lt
  rwa [values, List.length_map, ← values, ← toNatBE_eq_ofDigitsBE] at spelled

theorem bits_ofNatBE (width n : Nat) : bits (ofNatBE width n) = bitsBE (8 * width) n := by
  rw [bits, values_ofNatBE, bitsOf_digitsBE]

end Bytes

end LedgerWire
