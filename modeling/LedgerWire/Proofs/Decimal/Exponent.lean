import Mathlib.Data.Nat.Cast.Order.Field
import LedgerWire.Proofs.Decimal.Arithmetic

/-!
Contract: where the last digit of a result stands. A result that has few enough digits is kept as it
is, so the exponent of a sum, a product or a remainder is the one that its operands give; only the
exponent of a quotient may be above those of its operands.

Owns:
- `finish_exponent_le`, and the exponents of sums, products and remainders that need no rounding;
- `rem_eq_finish` and `exists_rem`, when there is a remainder and which.

Does not own: the values of these results.
-/

namespace LedgerWire.Decimal

variable {precision : Nat}

/-! ### Results that are kept -/

theorem excess_eq_zero {d : Decimal} (few : d.coefficient < 10 ^ precision) (one : 1 ≤ precision)
    (least : leastExponent precision ≤ d.exponent) : excess precision d = 0 := by
  have digits := (digitCount_le_iff one).mpr few
  unfold excess
  omega

/-- A result that is not rounded stands where it stood, unless it is a zero whose exponent is too
great. -/
theorem finish_exponent_le {exact result : Decimal} (kept : excess precision exact = 0)
    (finished : finish precision exact = .ok result) : result.exponent ≤ exact.exponent := by
  unfold finish at finished
  simp only [round_of_kept kept] at finished
  split_ifs at finished with zero tooGreat
  · cases finished
    exact min_le_left _ _
  · cases finished
    exact le_rfl

theorem truncateTo_exponent (places : Nat) (d : Decimal) :
    (d.truncateTo places).exponent = -places := by
  unfold truncateTo
  split_ifs <;> rfl

/-! ### Sums, products and remainders -/

theorem natAbs_signedAt (d : Decimal) (exponent : Int) :
    (d.signedAt exponent).natAbs = d.coefficientAt exponent := by
  unfold signedAt coefficientAt signed
  rw [Int.natAbs_mul, Int.natAbs_pow]
  cases d.negative <;> simp

theorem abs_value_eq_coefficientAt (d : Decimal) {exponent : Int} (below : exponent ≤ d.exponent) :
    |d.value| = d.coefficientAt exponent * (10 : ℚ) ^ exponent := by
  rw [abs_value, tens_eq below, coefficientAt]
  push_cast
  ring

theorem add_exponent_le {a b result : Decimal} (one : 1 ≤ precision)
    (few : a.coefficientAt (min a.exponent b.exponent) +
      b.coefficientAt (min a.exponent b.exponent) <
      10 ^ precision)
    (least : leastExponent precision ≤ min a.exponent b.exponent)
    (added : add precision a b = .ok result) : result.exponent ≤ min a.exponent b.exponent := by
  refine finish_exponent_le (excess_eq_zero ?_ one least) added
  apply lt_of_le_of_lt _ few
  rw [← natAbs_signedAt, ← natAbs_signedAt]
  exact Int.natAbs_add_le _ _

theorem sub_exponent_le {a b result : Decimal} (one : 1 ≤ precision)
    (few : a.coefficientAt (min a.exponent b.exponent) +
      b.coefficientAt (min a.exponent b.exponent) <
      10 ^ precision)
    (least : leastExponent precision ≤ min a.exponent b.exponent)
    (subtracted : sub precision a b = .ok result) : result.exponent ≤ min a.exponent b.exponent :=
  add_exponent_le (b := b.negate) one few least subtracted

theorem mul_exponent_le {a b result : Decimal} (one : 1 ≤ precision)
    (few : a.coefficient * b.coefficient < 10 ^ precision)
    (least : leastExponent precision ≤ a.exponent + b.exponent)
    (multiplied : mul precision a b = .ok result) : result.exponent ≤ a.exponent + b.exponent :=
  finish_exponent_le (excess_eq_zero few one least) multiplied

theorem rem_exponent_le {a b result : Decimal} (one : 1 ≤ precision)
    (few : a.coefficientAt (min a.exponent b.exponent) < 10 ^ precision)
    (least : leastExponent precision ≤ min a.exponent b.exponent)
    (divided : rem precision a b = .ok result) : result.exponent ≤ min a.exponent b.exponent := by
  unfold rem at divided
  simp only at divided
  split_ifs at divided
  refine finish_exponent_le (excess_eq_zero ?_ one least) divided
  exact lt_of_le_of_lt (Nat.mod_le _ _) few

/-- The remainder before it is rounded. -/
def exactRest (a b : Decimal) : Decimal :=
  let exponent := min a.exponent b.exponent
  ⟨a.negative, a.coefficientAt exponent % b.coefficientAt exponent, exponent⟩

theorem abs_div_value (a b : Decimal) :
    |a.value / b.value| =
      (a.coefficientAt (min a.exponent b.exponent) : ℚ) /
      b.coefficientAt (min a.exponent b.exponent) := by
  rw [abs_div, a.abs_value_eq_coefficientAt (min_le_left _ _),
    b.abs_value_eq_coefficientAt (min_le_right _ _), mul_div_mul_right _ _ (tens_pos _).ne']

/-- There is a remainder if the whole quotient has few enough digits. -/
theorem rem_eq_finish (one : 1 ≤ precision) {a b : Decimal} (nonzero : b.value ≠ 0)
    (few : |a.value / b.value| < (10 : ℚ) ^ precision) :
    rem precision a b = finish precision (exactRest a b) := by
  have divisorPositive : 0 < |b.value| := abs_pos.mpr nonzero
  have near : ¬ ((precision : Int) < a.adjusted - b.adjusted ∧ a.isZero = false) := by
    intro far
    rcases far with ⟨apart, dividendNonzero⟩
    have less : (10 : ℚ) ^ a.adjusted < 10 ^ ((precision : Int) + (b.adjusted + 1)) :=
      calc
        (10 : ℚ) ^ a.adjusted ≤ |a.value| := tens_adjusted_le dividendNonzero
        _ = |a.value / b.value| * |b.value| := by
          rw [abs_div, div_mul_cancel₀ _ divisorPositive.ne']
        _ < 10 ^ precision * 10 ^ (b.adjusted + 1) :=
          mul_lt_mul'' few (abs_value_lt_tens b) (abs_nonneg _) (abs_nonneg _)
        _ = 10 ^ ((precision : Int) + (b.adjusted + 1)) := by
          rw [zpow_add₀ (by norm_num) (precision : Int) _, zpow_natCast]
    have := (zpow_lt_zpow_iff_right₀ (by norm_num : (1 : ℚ) < 10)).mp less
    omega
  rw [abs_div_value] at few
  unfold rem exactRest
  generalize min a.exponent b.exponent = exponent at few ⊢
  have fewDigits : digitCount (a.coefficientAt exponent / b.coefficientAt exponent) ≤
      precision := by
    rw [digitCount_le_iff one]
    have atMost : ((a.coefficientAt exponent / b.coefficientAt exponent : Nat) : ℚ) ≤ _ :=
      Nat.cast_div_le
    exact_mod_cast atMost.trans_lt few
  simp only [Bool.and_eq_true, decide_eq_true_eq, Bool.not_eq_true', if_neg near,
    if_neg (not_lt.mpr fewDigits)]

theorem abs_value_exactRest_le (a b : Decimal) : |(exactRest a b).value| ≤ |a.value| := by
  rw [abs_value, a.abs_value_eq_coefficientAt (min_le_left _ b.exponent)]
  apply mul_le_mul_of_nonneg_right _ (tens_pos _).le
  exact_mod_cast Nat.mod_le _ _

theorem exists_rem (one : 1 ≤ precision) {a b : Decimal} (nonzero : b.value ≠ 0)
    (few : |a.value / b.value| < (10 : ℚ) ^ precision)
    (bounded : |a.value| ≤ (10 : ℚ) ^ greatestExponent) :
    ∃ result, rem precision a b = .ok result := by
  have finished := exists_finish one ((abs_value_exactRest_le a b).trans bounded)
  rw [rem_eq_finish one nonzero few]
  exact finished.imp fun _ => And.left

end LedgerWire.Decimal
