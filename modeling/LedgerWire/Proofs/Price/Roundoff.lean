import LedgerWire.Proofs.Price.Pass

/-!
Contract: what roundings to 28 digits add up to in a continued fraction. A division of numbers
leaves a rest; the expansion has what is left of its own number instead, rounds that, and rounds the
reciprocal. If the rest is not very small, the error grows by three units at most; if it is, the
reciprocal is out of all proportion.

Owns:
- the error of one step, and the reciprocal of what is left over at the end;
- that what is left over is nothing, or not very small.

Does not own: which numbers the steps are taken from.
-/

namespace LedgerWire.Price

open Decimal

/-! ### One step -/

theorem product_error {rounded reciprocal : ℚ} (roundedPositive : 0 < rounded)
    (reciprocalError : |reciprocal - 1 / rounded| ≤ 1 / rounded / 10 ^ 27) :
    |reciprocal * rounded - 1| ≤ 1 / 10 ^ 27 := by
  have scaled := mul_le_mul_of_nonneg_right reciprocalError roundedPositive.le
  rw [← abs_of_pos roundedPositive, ← abs_mul, abs_of_pos roundedPositive] at scaled
  field_simp at scaled ⊢
  linarith

section

variable {divisor rest remainder rounded reciprocal error : ℚ} (divisorPositive : 0 < divisor)
  (remainderError : |remainder * divisor - rest| * divisor ≤ error)
include divisorPositive remainderError

theorem denominator_large (errorSmall : error ≤ 192 / 10 ^ 27)
    (restLarge : 1 / 10 ^ 21 ≤ rest * divisor)
    (roundedLarge : remainder * (1 - 1 / 10 ^ 27) ≤ rounded) :
    rest * (999 / 1000 * (1 - 1 / 10 ^ 27)) ≤ rounded * divisor := by
  have difference : |remainder * divisor - rest| ≤ rest / 1000 := by
    refine le_of_mul_le_mul_right ?_ divisorPositive
    norm_num at restLarge errorSmall
    linarith
  have exactLarge : rest * (999 / 1000) ≤ remainder * divisor := by
    linarith [(abs_le.mp difference).1]
  calc
    rest * (999 / 1000 * (1 - 1 / 10 ^ 27)) = rest * (999 / 1000) * (1 - 1 / 10 ^ 27) := by ring
    _ ≤ remainder * divisor * (1 - 1 / 10 ^ 27) := by gcongr
    _ = remainder * (1 - 1 / 10 ^ 27) * divisor := by ring
    _ ≤ rounded * divisor := by gcongr

theorem numerator_small (restPositive : 0 < rest) (productSmall : rest * divisor ≤ 1)
    (roundedPositive : 0 < rounded) (roundedError : |rounded - remainder| ≤ remainder / 10 ^ 27)
    (reciprocalError : |reciprocal - 1 / rounded| ≤ 1 / rounded / 10 ^ 27) :
    |reciprocal * rest - divisor| * (rounded * divisor) ≤
      2 / 10 ^ 27 + error * (1 + 1 / 10 ^ 27) := by
  have productError := product_error roundedPositive reciprocalError
  -- two roundings, and between them the error that the remainder had
  have parts : rounded * (reciprocal * rest - divisor) = rest * (reciprocal * rounded - 1) -
      (remainder * divisor - rest) - divisor * (rounded - remainder) := by ring
  have partsError : |rounded * (reciprocal * rest - divisor)| ≤
      rest * (1 / 10 ^ 27) + |remainder * divisor - rest| + divisor * (remainder / 10 ^ 27) := by
    rw [parts]
    refine (abs_sub _ _).trans (add_le_add ((abs_sub _ _).trans (add_le_add ?_ le_rfl)) ?_)
    · rw [abs_mul, abs_of_pos restPositive]
      gcongr
    · rw [abs_mul, abs_of_pos divisorPositive]
      gcongr
  have remainderSmall : remainder * divisor ≤ rest + |remainder * divisor - rest| := by
    linarith [le_abs_self (remainder * divisor - rest)]
  calc
    |reciprocal * rest - divisor| * (rounded * divisor) =
        |rounded * (reciprocal * rest - divisor)| * divisor := by
      rw [abs_mul, abs_of_pos roundedPositive]
      ring
    _ ≤ (rest * (1 / 10 ^ 27) + |remainder * divisor - rest| + divisor * (remainder / 10 ^ 27)) *
      divisor := by
      gcongr
    _ = rest * divisor / 10 ^ 27 + |remainder * divisor - rest| * divisor +
        divisor * (remainder * divisor) / 10 ^ 27 := by ring
    _ ≤ rest * divisor / 10 ^ 27 + |remainder * divisor - rest| * divisor +
        divisor * (rest + |remainder * divisor - rest|) / 10 ^ 27 := by gcongr
    _ = 2 * (rest * divisor) / 10 ^ 27 +
      |remainder * divisor - rest| * divisor * (1 + 1 / 10 ^ 27) := by ring
    _ ≤ 2 * 1 / 10 ^ 27 + error * (1 + 1 / 10 ^ 27) := by gcongr
    _ = 2 / 10 ^ 27 + error * (1 + 1 / 10 ^ 27) := by ring

/-- The error of a remainder's reciprocal, if the remainder and the reciprocal are rounded. Errors
of errors are less than what is granted for a step. -/
theorem reciprocal_error (errorSmall : error ≤ 192 / 10 ^ 27)
    (restLarge : 1 / 10 ^ 21 ≤ rest * divisor)
    (productSmall : rest * divisor ≤ 1) (remainderPositive : 0 < remainder)
    (roundedError : |rounded - remainder| ≤ remainder / 10 ^ 27)
    (reciprocalError : |reciprocal - 1 / rounded| ≤ 1 / rounded / 10 ^ 27) :
    |reciprocal * rest - divisor| * rest ≤ error + 3 / 10 ^ 27 := by
  have restPositive : 0 < rest :=
    pos_of_mul_pos_left (lt_of_lt_of_le (by norm_num) restLarge) divisorPositive.le
  have roundedLarge : remainder * (1 - 1 / 10 ^ 27) ≤ rounded := by
    linarith [(abs_le.mp roundedError).1]
  have roundedPositive : 0 < rounded :=
    lt_of_lt_of_le (mul_pos remainderPositive (by norm_num)) roundedLarge
  have denominator :=
    denominator_large divisorPositive remainderError errorSmall restLarge roundedLarge
  have numerator :=
    numerator_small divisorPositive remainderError restPositive productSmall roundedPositive
    roundedError reciprocalError
  have absorbed : 2 / 10 ^ 27 + error * (1 + 1 / 10 ^ 27) ≤
      (error + 3 / 10 ^ 27) * (999 / 1000 * (1 - 1 / 10 ^ 27)) := by
    norm_num at errorSmall ⊢
    linarith
  refine le_of_mul_le_mul_right ?_ (show (0 : ℚ) < 999 / 1000 * (1 - 1 / 10 ^ 27) by norm_num)
  calc
    |reciprocal * rest - divisor| * rest * (999 / 1000 * (1 - 1 / 10 ^ 27)) =
        |reciprocal * rest - divisor| * (rest * (999 / 1000 * (1 - 1 / 10 ^ 27))) := by ring
    _ ≤ |reciprocal * rest - divisor| * (rounded * divisor) := by gcongr
    _ ≤ 2 / 10 ^ 27 + error * (1 + 1 / 10 ^ 27) := numerator
    _ ≤ (error + 3 / 10 ^ 27) * (999 / 1000 * (1 - 1 / 10 ^ 27)) := absorbed

end

/-! ### The end -/

/-- In 28 digits a number that is not below one has at most 27 digits after the point. -/
theorem exists_intCast_of_representable {x : ℚ} (fits : Representable precision x) (one : 1 ≤ x) :
    ∃ units : Int, x = units / 10 ^ 27 := by
  obtain ⟨coefficient, exponent, few, -, rfl⟩ := fits
  have enough : -27 ≤ exponent := by
    by_contra small
    have fewQ : (coefficient : ℚ) < 10 ^ (28 : Int) := by
      have := (le_abs_self coefficient).trans_lt few
      exact_mod_cast this
    have : (coefficient : ℚ) * 10 ^ exponent < 1 :=
      calc
        (coefficient : ℚ) * 10 ^ exponent < 10 ^ (28 : Int) * 10 ^ exponent :=
          mul_lt_mul_of_pos_right fewQ (tens_pos exponent)
        _ ≤ 10 ^ (28 : Int) * 10 ^ (-28 : Int) :=
          mul_le_mul_of_nonneg_left (tens_le_tens (by omega)) (tens_pos _).le
        _ = 1 := by norm_num
    linarith
  refine ⟨coefficient * (10 ^ (exponent - -27).toNat : Nat), ?_⟩
  rw [tens_eq enough]
  push_cast
  norm_num
  ring

/-- What a number has after the point is nothing, or not so small that a step could lose it. -/
def Visible (x : ℚ) : Prop := Int.fract x = 0 ∨ 1 / 10 ^ 27 ≤ Int.fract x

theorem visible_of_representable {x : ℚ} (fits : Representable precision x) (one : 1 ≤ x) :
    Visible x := by
  obtain ⟨units, rfl⟩ := exists_intCast_of_representable fits one
  have scaled : Int.fract ((units : ℚ) / 10 ^ 27) =
      ((units - ⌊(units : ℚ) / 10 ^ 27⌋ * 10 ^ 27 : Int) : ℚ) / 10 ^ 27 := by
    unfold Int.fract
    push_cast
    ring
  have nonnegative := Int.fract_nonneg ((units : ℚ) / 10 ^ 27)
  unfold Visible
  rw [scaled] at nonnegative ⊢
  generalize units - ⌊(units : ℚ) / 10 ^ 27⌋ * 10 ^ 27 = left at nonnegative ⊢
  rw [le_div_iff₀ (by norm_num), zero_mul] at nonnegative
  rcases eq_or_ne left 0 with zero | nonzero
  · left
    rw [zero, Int.cast_zero, zero_div]
  · right
    have positive : 1 ≤ left := by
      have : 0 ≤ left := by exact_mod_cast nonnegative
      omega
    rw [div_le_div_iff_of_pos_right (by norm_num)]
    exact_mod_cast positive

/-- A fraction with parts in range does not lose what it has after the point. -/
theorem visible_natCast_div (n : Nat) {d : Nat} (positive : 0 < d) (small : d < 2147483647) :
    Visible ((n : ℚ) / d) := by
  have positiveQ : (0 : ℚ) < d := by exact_mod_cast positive
  have smallQ : (d : ℚ) ≤ 2147483647 := by exact_mod_cast small.le
  unfold Visible
  rw [Int.fract_div_natCast_eq_div_natCast_mod]
  rcases Nat.eq_zero_or_pos (n % d) with even | uneven
  · left
    rw [even, Nat.cast_zero, zero_div]
  · right
    have one : (1 : ℚ) ≤ (n % d : Nat) := by exact_mod_cast uneven
    rw [div_le_div_iff₀ (by norm_num) positiveQ]
    linarith

/-- The reciprocal of a remainder that belongs to a very small rest is out of all proportion. -/
theorem reciprocal_far {divisor rest remainder rounded reciprocal bottom : ℚ}
    (divisorPositive : 0 < divisor) (bottomPositive : 0 < bottom)
    (bottomSmall : bottom ≤ 2147483647)
    (share : 9 / 20 ≤ bottom * divisor)
    (remainderError : |remainder * divisor - rest| * divisor ≤ 192 / 10 ^ 27)
    (restSmall : rest * divisor ≤ 1 / 10 ^ 21) (remainderPositive : 0 < remainder)
    (roundedError : |rounded - remainder| ≤ remainder / 10 ^ 27)
    (reciprocalError : |reciprocal - 1 / rounded| ≤ 1 / rounded / 10 ^ 27) :
    2147483647 ≤ (reciprocal - 1) * bottom := by
  have squareSmall : remainder * (divisor * divisor) ≤ 2 / 10 ^ 21 := by
    have := mul_le_mul_of_nonneg_right (le_abs_self (remainder * divisor - rest)) divisorPositive.le
    norm_num at remainderError restSmall ⊢
    linarith
  have remainderSmall : remainder ≤ bottom * bottom / 10 ^ 20 := by
    have : remainder * (9 / 20 * (9 / 20)) ≤ bottom * bottom * (2 / 10 ^ 21) :=
      calc
        remainder * (9 / 20 * (9 / 20)) ≤
          remainder * (bottom * divisor * (bottom * divisor)) := by gcongr
        _ = bottom * bottom * (remainder * (divisor * divisor)) := by ring
        _ ≤ bottom * bottom * (2 / 10 ^ 21) := by gcongr
    norm_num at this ⊢
    linarith [mul_pos bottomPositive bottomPositive]
  have roundedPositive : 0 < rounded := by
    norm_num at roundedError
    linarith [(abs_le.mp roundedError).1]
  have roundedSmall : rounded ≤ 2 * remainder := by
    norm_num at roundedError
    linarith [(abs_le.mp roundedError).2]
  have productLarge : 1 / 2 ≤ reciprocal * rounded := by
    have productError := (abs_le.mp (product_error roundedPositive reciprocalError)).1
    norm_num at productError ⊢
    linarith
  have reciprocalPositive : 0 < reciprocal := by
    by_contra negative
    linarith [mul_nonpos_of_nonpos_of_nonneg (not_lt.mp negative) roundedPositive.le]
  by_contra near
  have product : reciprocal * bottom ≤ 2 * 2147483647 := by linarith
  have : reciprocal * rounded ≤ 2 * (2 * 2147483647) * 2147483647 / 10 ^ 20 :=
    calc
      reciprocal * rounded ≤ reciprocal * (2 * (bottom * bottom / 10 ^ 20)) := by
        gcongr
        linarith
      _ = 2 * (reciprocal * bottom) * bottom / 10 ^ 20 := by ring
      _ ≤ 2 * (2 * 2147483647) * 2147483647 / 10 ^ 20 := by gcongr
  norm_num at this
  linarith

end LedgerWire.Price
