import Mathlib.Tactic.LinearCombination
import LedgerWire.Proofs.Decimal.Exponent

/-!
Contract: operations whose result needs no rounding. Sums, products and remainders of few enough
digits are returned as they are, at the exponent that the operands give, and stand for the exact
number.

Owns:
- the sum, the product and the remainder before they are rounded, and when the operations return
  just these;
- `integerPart`, and what a number is when it is cut at a number of digits after the point.

Does not own: quotients, which have as many digits as the precision lets them have.
-/

namespace LedgerWire.Decimal

variable {precision : Nat}

/-! ### Integer parts -/

/-- The integer part of a number: what is after the point is dropped, whatever the sign. -/
def integerPart (x : ℚ) : ℤ := if 0 ≤ x then ⌊x⌋ else ⌈x⌉

theorem integerPart_intCast (n : Int) : integerPart n = n := by
  unfold integerPart
  split_ifs
  · exact Int.floor_intCast n
  · exact Int.ceil_intCast n

theorem integerPart_signed (negative : Bool) {x : ℚ} (nonnegative : 0 ≤ x) :
    (integerPart (signFactor negative * x) : ℚ) = signFactor negative * ⌊x⌋ := by
  unfold integerPart signFactor
  cases negative with
  | false => simp [nonnegative]
  | true =>
    rcases nonnegative.eq_or_lt with rfl | positive
    · simp
    · have below : ¬ 0 ≤ -x := by linarith
      simp [below, Int.ceil_neg]

theorem floor_natCast_div (n unit : Nat) : ⌊(n : ℚ) / unit⌋ = ((n / unit : Nat) : Int) := by
  have floor := Rat.floor_intCast_div_natCast (n : Int) unit
  rw [Int.cast_natCast] at floor
  exact floor

/-! ### Numbers on a finer grid -/

theorem value_coefficientAt (d : Decimal) {exponent : Int} (below : exponent ≤ d.exponent) :
    (mk d.negative (d.coefficientAt exponent) exponent).value = d.value := by
  rw [value_eq_signFactor, value_eq_signFactor d, tens_eq below]
  unfold coefficientAt
  push_cast
  ring

theorem tens_neg_mul (places : Nat) : (10 : ℚ) ^ (-places : Int) * 10 ^ places = 1 := by
  rw [zpow_neg, zpow_natCast]
  exact inv_mul_cancel₀ (by positivity)

/-- A number cut at so many digits after the point is the integer part of that many times ten of
it. -/
theorem value_truncateTo (places : Nat) (d : Decimal) :
    (d.truncateTo places).value = integerPart (d.value * 10 ^ places) / 10 ^ places := by
  have unit : (10 : ℚ) ^ (-places : Int) = 1 / 10 ^ places := by
    rw [zpow_neg, zpow_natCast, one_div]
  unfold truncateTo
  by_cases fine : -(places : Int) ≤ d.exponent
  · have grid : d.value * 10 ^ places = d.signedAt (-places) := by
      rw [d.value_eq_signedAt fine, mul_assoc, tens_neg_mul, mul_one]
    rw [if_pos fine, value_coefficientAt d fine, grid, integerPart_intCast, ← grid]
    exact (mul_div_cancel_right₀ _ (by positivity)).symm
  · have places_lt : d.exponent = -places - (d.scale - places : Nat) := by
      unfold scale
      omega
    have moved : d.value * 10 ^ places =
        signFactor d.negative * ((d.coefficient : ℚ) / (10 ^ (d.scale - places) : Nat)) := by
      rw [value_eq_signFactor, places_lt, zpow_sub₀ (by norm_num), zpow_natCast, unit]
      push_cast
      field_simp
    rw [if_neg fine, moved, integerPart_signed _ (by positivity), floor_natCast_div,
      value_eq_signFactor, unit, Int.cast_natCast]
    ring

/-! ### Remainders -/

theorem value_eq_signed_coefficientAt (d : Decimal) {exponent : Int}
    (below : exponent ≤ d.exponent) :
    d.value = signFactor d.negative * (d.coefficientAt exponent * (10 : ℚ) ^ exponent) := by
  rw [← value_coefficientAt d below, value_eq_signFactor]

theorem div_value_eq_signed (a b : Decimal) {exponent : Int} (left : exponent ≤ a.exponent)
    (right : exponent ≤ b.exponent) :
    a.value / b.value = signFactor (a.negative != b.negative) *
      ((a.coefficientAt exponent : ℚ) / b.coefficientAt exponent) := by
  have inverse : (signFactor b.negative)⁻¹ = signFactor b.negative :=
    inv_eq_of_mul_eq_one_left (signFactor_mul_self _)
  rw [a.value_eq_signed_coefficientAt left, b.value_eq_signed_coefficientAt right, signFactor_bne,
    mul_div_mul_comm, mul_div_mul_right _ _ (tens_pos exponent).ne',
    div_eq_mul_inv (signFactor _), inverse]

/-- The remainder is what the whole quotient, with digits after the point dropped, leaves of the
dividend. -/
theorem value_exactRest (a b : Decimal) :
    (exactRest a b).value = a.value - b.value * integerPart (a.value / b.value) := by
  have left := min_le_left a.exponent b.exponent
  have right := min_le_right a.exponent b.exponent
  have rest : (exactRest a b).value = signFactor a.negative *
      ((a.coefficientAt (min a.exponent b.exponent) % b.coefficientAt
        (min a.exponent b.exponent) : Nat) *
        (10 : ℚ) ^ min a.exponent b.exponent) := value_eq_signFactor _
  have parts := Nat.div_add_mod (a.coefficientAt (min a.exponent b.exponent))
    (b.coefficientAt (min a.exponent b.exponent))
  have square := signFactor_mul_self b.negative
  rw [rest, div_value_eq_signed a b left right, integerPart_signed _ (by positivity),
    floor_natCast_div, Int.cast_natCast, a.value_eq_signed_coefficientAt left,
    b.value_eq_signed_coefficientAt right, signFactor_bne]
  generalize b.coefficientAt (min a.exponent b.exponent) = divisor at parts ⊢
  generalize a.coefficientAt (min a.exponent b.exponent) = dividend at parts ⊢
  generalize dividend / divisor = whole at parts ⊢
  generalize dividend % divisor = left at parts ⊢
  rw [← parts]
  push_cast
  linear_combination (signFactor a.negative * divisor * whole *
    (10 : ℚ) ^ min a.exponent b.exponent) * square

theorem abs_value_exactRest_lt (a : Decimal) {b : Decimal} (nonzero : b.value ≠ 0) :
    |(exactRest a b).value| < |b.value| := by
  have right := min_le_right a.exponent b.exponent
  have divisor := b.abs_value_eq_coefficientAt right
  have divisorPositive : 0 < b.coefficientAt (min a.exponent b.exponent) := by
    apply Nat.pos_of_ne_zero
    intro zero
    rw [zero, Nat.cast_zero, zero_mul, abs_eq_zero] at divisor
    exact nonzero divisor
  rw [abs_value, divisor]
  apply mul_lt_mul_of_pos_right _ (tens_pos _)
  exact_mod_cast Nat.mod_lt _ divisorPositive

theorem exactRest_mul_nonneg (a b : Decimal) : 0 ≤ (exactRest a b).value * a.value := by
  have square := signFactor_mul_self a.negative
  have parts : (exactRest a b).value * a.value = signFactor a.negative * signFactor a.negative *
      (((exactRest a b).coefficient * (10 : ℚ) ^ (exactRest a b).exponent) *
        (a.coefficient * (10 : ℚ) ^ a.exponent)) := by
    rw [value_eq_signFactor a, value_eq_signFactor (exactRest a b)]
    change signFactor a.negative * _ * _ = _
    ring
  have magnitude (d : Decimal) : 0 ≤ d.coefficient * (10 : ℚ) ^ d.exponent :=
    mul_nonneg (Nat.cast_nonneg _) (tens_pos _).le
  rw [parts, square, one_mul]
  exact mul_nonneg (magnitude _) (magnitude a)

/-! ### Results that are returned as they are -/

theorem finish_of_few {d : Decimal} (one : 1 ≤ precision) (few : d.coefficient < 10 ^ precision)
    (least : leastExponent precision ≤ d.exponent)
    (most : d.exponent + precision ≤ greatestExponent) :
    finish precision d = .ok d := by
  have kept := round_of_kept (excess_eq_zero few one least)
  have digits := (digitCount_le_iff one).mpr few
  unfold finish
  simp only [kept]
  split_ifs with zero tooGreat
  · rw [min_eq_left (by omega)]
  · unfold adjusted at tooGreat
    omega
  · rfl

section Operations

variable {a b : Decimal} (one : 1 ≤ precision)
include one

theorem add_of_few
    (few : a.coefficientAt (min a.exponent b.exponent) +
      b.coefficientAt (min a.exponent b.exponent) <
      10 ^ precision)
    (least : leastExponent precision ≤ min a.exponent b.exponent)
    (most : min a.exponent b.exponent + precision ≤ greatestExponent) :
    add precision a b = .ok (exactSum a b) := by
  apply finish_of_few one _ least most
  apply lt_of_le_of_lt _ few
  rw [← natAbs_signedAt, ← natAbs_signedAt]
  exact Int.natAbs_add_le _ _

theorem mul_of_few (few : a.coefficient * b.coefficient < 10 ^ precision)
    (least : leastExponent precision ≤ a.exponent + b.exponent)
    (most : a.exponent + b.exponent + precision ≤ greatestExponent) :
    mul precision a b = .ok (exactProduct a b) :=
  finish_of_few one few least most

theorem rem_of_few (nonzero : b.value ≠ 0) (fewWhole : |a.value / b.value| < (10 : ℚ) ^ precision)
    (few : a.coefficientAt (min a.exponent b.exponent) < 10 ^ precision)
    (least : leastExponent precision ≤ min a.exponent b.exponent)
    (most : min a.exponent b.exponent + precision ≤ greatestExponent) :
    rem precision a b = .ok (exactRest a b) := by
  rw [rem_eq_finish one nonzero fewWhole]
  apply finish_of_few one _ least most
  exact lt_of_le_of_lt (Nat.mod_le _ _) few

end Operations

end LedgerWire.Decimal
