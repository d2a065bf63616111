import LedgerWire.Proofs.Decimal.Arithmetic

/-!
Contract: decimals near zero. Every number that needs no rounding is a multiple of the least unit
there is, so a number near zero is rounded to one of the multiples next to it, the nearer one, and
halfway between them to the even one. Below so many units a number is too small for its reciprocal,
which is too great to be a result.

Owns:
- `Decimal.leastUnit`, and up to which number a difference is rounded down to an even multiple of
  it;
- `Decimal.exists_reciprocal_iff`.

Does not own: rounding where the digits are too many and not the exponent too small.
-/

namespace LedgerWire.Decimal

variable {precision : Nat}

/-! ### The least unit -/

def leastUnit (precision : Nat) : ℚ := 10 ^ leastExponent precision

theorem leastUnit_pos : 0 < leastUnit precision := tens_pos _

theorem exists_multiple_of_representable {x : ℚ} (fits : Representable precision x) :
    ∃ multiple : Int, x = multiple * leastUnit precision := by
  obtain ⟨coefficient, exponent, -, least, rfl⟩ := fits
  refine ⟨coefficient * (10 ^ (exponent - leastExponent precision).toNat : Nat), ?_⟩
  unfold leastUnit
  rw [tens_eq least]
  push_cast
  ring

theorem ten_pow_mul_leastUnit (below : Nat) :
    10 ^ below * leastUnit (below + 2) = (10 : ℚ) ^ (-(greatestExponent + 1)) := by
  unfold leastUnit leastExponent
  rw [← zpow_natCast, ← zpow_add₀ (by norm_num)]
  congr 1
  push_cast
  ring

/-! ### Rounding to an even multiple -/

/-- A quotient is rounded down to an even number if it is not beyond it by more than a half. -/
theorem divideHalfEven_le_even_iff {n unit even : Nat} (positive : 0 < unit)
    (isEven : even % 2 = 0) :
    divideHalfEven n unit ≤ even ↔ 2 * n ≤ (2 * even + 1) * unit := by
  have parts := Nat.div_add_mod n unit
  have rest := Nat.mod_lt n positive
  unfold divideHalfEven
  simp only [Bool.or_eq_true, Bool.and_eq_true, decide_eq_true_eq]
  rcases lt_trichotomy (n / unit) even with below | equal | above
  · have := Nat.mul_le_mul_left unit (show n / unit + 1 ≤ even from below)
    refine iff_of_true ?_ (by linarith)
    split_ifs <;> omega
  · rw [equal] at parts ⊢
    have double : (2 * even + 1) * unit = 2 * (unit * even) + unit := by ring
    rw [double]
    split_ifs <;> omega
  · have := Nat.mul_le_mul_left unit (show even + 1 ≤ n / unit from above)
    refine iff_of_false ?_ (by linarith [Nat.zero_le (n % unit)])
    split_ifs <;> omega

/-- A number with so few digits as the precision that stand above the least exponent is far from
zero. -/
theorem even_lt_of_large {even : Nat} {exponent : Int} {x : ℚ} (one : 1 ≤ precision)
    (few : even < 10 ^ precision)
    (above : leastExponent precision < exponent)
    (large : ((10 ^ (precision - 1) : Nat) : Int) * (10 : ℚ) ^ exponent ≤ x) :
    (even + 1) * leastUnit precision ≤ x := by
  have power : (10 : ℚ) ^ precision * leastUnit precision ≤
      10 ^ (precision - 1) * 10 ^ exponent := by
    unfold leastUnit
    rw [← zpow_natCast, ← zpow_natCast, ← zpow_add₀ (by norm_num), ← zpow_add₀ (by norm_num)]
    exact tens_le_tens (by omega)
  have next : (even + 1 : ℚ) ≤ 10 ^ precision := by exact_mod_cast few
  push_cast at large
  exact (mul_le_mul_of_nonneg_right next leastUnit_pos.le).trans (power.trans large)

section Round

variable {d : Decimal} {even : Nat} (one : 1 ≤ precision) (isEven : even % 2 = 0)
  (few : even < 10 ^ precision)
include one isEven few

theorem round_le_even_iff (sign : d.negative = false) :
    (round precision d).value ≤ even * leastUnit precision ↔
      2 * d.value ≤ (2 * even + 1) * leastUnit precision := by
  by_cases least : roundedExponent precision d = leastExponent precision
  · have unit : leastUnit precision = (10 ^ excess precision d : Nat) * (10 : ℚ) ^ d.exponent := by
      unfold leastUnit
      rw [← least, tens_roundedExponent]
    rw [value_round one sign, least, value_of_nonnegative sign]
    change _ * leastUnit precision ≤ _ * leastUnit precision ↔ _
    rw [mul_le_mul_iff_left₀ leastUnit_pos, unit, ← mul_assoc, ← mul_assoc,
      mul_le_mul_iff_left₀ (tens_pos _)]
    exact_mod_cast divideHalfEven_le_even_iff (by positivity) isEven
  · have above := lt_of_le_of_ne (leastExponent_le_roundedExponent d) (Ne.symm least)
    rcases excess_cases one sign with kept | equal | large
    · -- nothing is rounded, and the number is a multiple of the unit
      have fits := (rounded_round one d).representable
      rw [round_of_kept kept] at fits ⊢
      obtain ⟨multiple, value⟩ := exists_multiple_of_representable fits
      rw [value, ← mul_assoc, mul_le_mul_iff_left₀ leastUnit_pos,
        mul_le_mul_iff_left₀ leastUnit_pos]
      norm_cast
      omega
    · exact absurd equal least
    · have unit : 0 < leastUnit precision := leastUnit_pos
      have exactFar := even_lt_of_large one few above large
      have roundedFar := even_lt_of_large one few above (multiple_le_round one sign large)
      exact iff_of_false (by linarith) (by linarith)

theorem abs_round_le_even_iff (d : Decimal) :
    |(round precision d).value| ≤ even * leastUnit precision ↔
      2 * |d.value| ≤ (2 * even + 1) * leastUnit precision := by
  have nonnegative (magnitude : Decimal) (sign : magnitude.negative = false) :
      |(round precision magnitude).value| ≤ even * leastUnit precision ↔
        2 * |magnitude.value| ≤ (2 * even + 1) * leastUnit precision := by
    have exact : 0 ≤ magnitude.value := by
      rw [value_of_nonnegative sign]
      exact mul_nonneg (Nat.cast_nonneg _) (tens_pos _).le
    have rounded : 0 ≤ (round precision magnitude).value := by
      rw [value_round one sign]
      exact mul_nonneg (Nat.cast_nonneg _) (tens_pos _).le
    rw [abs_of_nonneg exact, abs_of_nonneg rounded]
    exact round_le_even_iff one isEven few sign
  cases sign : d.negative with
  | false => exact nonnegative d sign
  | true =>
    have opposite := nonnegative d.negate (by simp [negate, withSign, sign])
    rwa [round_negate, value_negate, value_negate, abs_neg, abs_neg] at opposite

/-- A difference is rounded down to an even multiple of the least unit if it is at most half a unit
beyond. -/
theorem abs_sub_le_even_iff {a b result : Decimal} (subtracted : sub precision a b = .ok result) :
    |result.value| ≤ even * leastUnit precision ↔
      2 * |a.value - b.value| ≤ (2 * even + 1) * leastUnit precision := by
  rw [value_of_finish subtracted, sub_eq_add_neg a.value, ← value_negate, ← value_exactSum]
  exact abs_round_le_even_iff one isEven few (exactSum a b.negate)

end Round

/-! ### Reciprocals -/

theorem representable_greatest_nines (below : Nat) :
    Representable (below + 2) ((10 ^ (below + 1) - 1) * 10 ^ (greatestExponent - below)) := by
  refine ⟨10 ^ (below + 1) - 1, greatestExponent - below, ?_, ?_, ?_⟩
  · have one : (1 : Int) ≤ 10 ^ (below + 1) := one_le_pow₀ (by norm_num)
    rw [abs_of_nonneg (by omega), pow_succ _ (below + 1)]
    omega
  · unfold leastExponent greatestExponent
    omega
  · push_cast
    rfl

/-- The nearest number to the least one without a reciprocal, and its reciprocal. -/
theorem one_le_greatest_mul (below : Nat) :
    1 ≤ (10 ^ (below + 1) - 1) * (10 : ℚ) ^ (greatestExponent - below) *
      ((10 ^ below + 1) * leastUnit (below + 2)) := by
  have units :
      (10 : ℚ) ^ (greatestExponent - below) * leastUnit (below + 2) * 10 ^ (2 * below + 1) = 1 := by
    unfold leastUnit leastExponent
    rw [← zpow_natCast, ← zpow_add₀ (by norm_num), ← zpow_add₀ (by norm_num), ← zpow_zero (10 : ℚ)]
    congr 1
    push_cast
    ring
  have large : (10 : ℚ) ^ (2 * below + 1) ≤ (10 ^ (below + 1) - 1) * (10 ^ below + 1) := by
    have one : (1 : ℚ) ≤ 10 ^ below := one_le_pow₀ (by norm_num)
    have powers : (10 : ℚ) ^ (2 * below + 1) = 10 * (10 ^ below * 10 ^ below) := by ring
    rw [powers, pow_succ]
    nlinarith
  calc
    1 = (10 : ℚ) ^ (greatestExponent - below) * leastUnit (below + 2) * 10 ^ (2 * below + 1) :=
      units.symm
    _ ≤ (10 : ℚ) ^ (greatestExponent - below) * leastUnit (below + 2) *
      ((10 ^ (below + 1) - 1) * (10 ^ below + 1)) :=
      mul_le_mul_of_nonneg_left large (mul_pos (tens_pos _) leastUnit_pos).le
    _ = _ := by ring

theorem one_div_le_greatest {below : Nat} {x : ℚ} (fits : Representable (below + 2) x)
    (positive : 0 < x)
    (large : 10 ^ below * leastUnit (below + 2) < x) :
    1 / x ≤ (10 ^ (below + 1) - 1) * 10 ^ (greatestExponent - below) := by
  have next : (10 ^ below + 1) * leastUnit (below + 2) ≤ x := by
    obtain ⟨multiple, value⟩ := exists_multiple_of_representable fits
    rw [value, mul_lt_mul_iff_left₀ leastUnit_pos] at large
    rw [value, mul_le_mul_iff_left₀ leastUnit_pos]
    exact_mod_cast Int.add_one_le_of_lt (show (10 ^ below : Int) < multiple by exact_mod_cast large)
  have nines : (0 : ℚ) ≤ 10 ^ (below + 1) - 1 := sub_nonneg.mpr (one_le_pow₀ (by norm_num))
  rw [div_le_iff₀ positive]
  exact (one_le_greatest_mul below).trans
    (mul_le_mul_of_nonneg_left next (mul_nonneg nines (tens_pos _).le))

theorem le_one_div_of_tiny {exponent : Int} {x : ℚ} (positive : 0 < x)
    (tiny : x ≤ 10 ^ (-exponent)) :
    (10 : ℚ) ^ exponent ≤ 1 / x := by
  rw [zpow_neg, ← one_div] at tiny
  exact (le_one_div (tens_pos exponent) positive).mpr tiny

/-- A positive number that needs no rounding has a reciprocal if it is more than so many least
units. -/
theorem exists_reciprocal_iff (below : Nat) {d : Decimal} (fits : Representable (below + 2) d.value)
    (positive : 0 < d.value) :
    (∃ reciprocal, div (below + 2) (ofInt 1) d = .ok reciprocal) ↔
      10 ^ below * leastUnit (below + 2) < d.value := by
  have one : 1 ≤ below + 2 := by omega
  obtain ⟨near, finished, same⟩ := div_eq_finish (below + 2) (ofInt 1) positive.ne'
  have rounded := same.rounded (rounded_round one near)
  rw [value_ofInt, Int.cast_one] at rounded
  rw [finished, exists_finish_iff]
  constructor
  · intro small
    by_contra tiny
    rw [not_lt, ten_pow_mul_leastUnit] at tiny
    have fitsGreatest :=
      representable_tens one (show leastExponent (below + 2) ≤ greatestExponent + 1 by
      unfold leastExponent greatestExponent
      omega)
    have great := rounded.le_rounded fitsGreatest (le_one_div_of_tiny positive tiny)
    exact absurd great (not_le.mpr ((le_abs_self _).trans_lt small))
  · intro large
    have atMost := rounded.rounded_le (representable_greatest_nines below)
      (one_div_le_greatest fits positive large)
    have atLeast := rounded.le_rounded representable_zero (one_div_pos.mpr positive).le
    rw [abs_of_nonneg atLeast]
    refine atMost.trans_lt ?_
    rw [show greatestExponent + 1 =
      (below + 1 : Nat) + (greatestExponent - below) by
      push_cast; ring, zpow_add₀ (by norm_num), zpow_natCast]
    exact mul_lt_mul_of_pos_right (sub_one_lt _) (tens_pos _)

end LedgerWire.Decimal
