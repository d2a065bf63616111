import LedgerWire.Proofs.Amount.Range
import LedgerWire.Proofs.Decimal.Exact

/-!
Contract: sums, differences, products and remainders of amounts are exact, or there is none. The
precision they are worked out in holds every digit of them; only a product is cut, at 28 digits
after the point. What is left is returned with its digits after the point as long as all its digits
together have at most 96 bits.

Owns:
- `Amount.ExactOrNone`, an operation that returns a number whenever its digits are few enough;
- which numbers the operations return so, on amounts that are written out.

Does not own: quotients.
-/

namespace LedgerWire.Amount

open Decimal

/-! ### Numbers of few enough digits -/

/-- The number cut toward zero at so many digits after the point. -/
def cutAt (places : Nat) (x : ℚ) : ℚ := integerPart (x * 10 ^ places) / 10 ^ places

/-- Whether an operation returns a number, with so many digits after the point, if all its digits
have at most 96 bits, and else has no result. -/
def ExactOrNone (reply : Except Failure (Option Amount)) (places : Nat) (x : ℚ) : Prop :=
  if |x| * 10 ^ places ≤ maxCoefficient then
    ∃ result, reply = .ok (some result) ∧ result.value.value = x ∧ result.scale = places
  else
    reply = .ok none

theorem cutAt_of_intCast {places : Nat} {x : ℚ} {units : Int} (grid : x * 10 ^ places = units) :
    cutAt places x = x := by
  unfold cutAt
  rw [grid, integerPart_intCast, ← grid, mul_div_cancel_right₀ _ (by positivity)]

theorem cutAt_value {d : Decimal} {places : Nat} (fine : -(places : Int) ≤ d.exponent) :
    cutAt places d.value = d.value := by
  have grid : d.value * 10 ^ places = d.signedAt (-places) := by
    rw [d.value_eq_signedAt fine, mul_assoc, tens_neg_mul, mul_one]
  exact cutAt_of_intCast grid

theorem cutAt_scale (d : Decimal) : cutAt d.scale d.value = d.value := by
  apply cutAt_value
  unfold Decimal.scale
  omega

theorem abs_value_mul_tens {d : Decimal} (nonpositive : d.exponent ≤ 0) :
    |d.value| * 10 ^ d.scale = d.coefficient := by
  have exponent : d.exponent = -(d.scale : Int) := by
    unfold Decimal.scale
    omega
  rw [abs_value, exponent, mul_assoc, tens_neg_mul, mul_one]

/-- A result without zeros left out before the point is cut at 28 digits after it and checked. -/
theorem exactOrNone_settle {d : Decimal} (nonpositive : d.exponent ≤ 0) :
    ExactOrNone (settle (.ok d)) (min maxScale d.scale) (cutAt (min maxScale d.scale) d.value) := by
  have checked (cut : Decimal) (nonpositive : cut.exponent ≤ 0)
      (least : -(maxScale : Int) ≤ cut.exponent) :
      ExactOrNone (.ok (if h : Bounded cut then some ⟨cut, h⟩ else none)) cut.scale cut.value := by
    have few : |cut.value| * 10 ^ cut.scale ≤ maxCoefficient ↔ Bounded cut := by
      rw [abs_value_mul_tens nonpositive, Nat.cast_le]
      exact ⟨fun few => ⟨few, least⟩, And.left⟩
    unfold ExactOrNone
    by_cases bounded : Bounded cut
    · rw [if_pos (few.mpr bounded), dif_pos bounded]
      exact ⟨_, rfl, rfl, rfl⟩
    · rw [if_neg (mt few.mp bounded), dif_neg bounded]
  unfold settle bound?
  by_cases long : maxScale < d.scale
  · have exponent := truncateTo_exponent maxScale d
    have scale : (d.truncateTo maxScale).scale = maxScale := by
      unfold Decimal.scale
      omega
    have cut := checked (d.truncateTo maxScale) (by omega) (by omega)
    rw [scale, value_truncateTo] at cut
    rw [min_eq_left (by omega)]
    simp only [if_pos long]
    exact cut
  · have least : -(maxScale : Int) ≤ d.exponent := by
      unfold Decimal.scale at long
      omega
    rw [min_eq_right (by omega), cutAt_scale]
    simp only [if_neg long]
    exact checked d nonpositive least

theorem exactOrNone_settle_of_le {d : Decimal} (nonpositive : d.exponent ≤ 0)
    (least : -28 ≤ d.exponent) :
    ExactOrNone (settle (.ok d)) d.scale d.value := by
  have few : d.scale ≤ maxScale := by
    unfold Decimal.scale maxScale
    omega
  have settled := exactOrNone_settle nonpositive
  rwa [min_eq_right few, cutAt_scale] at settled

section Read

variable {reply : Except Failure (Option Amount)} {places : Nat} {x : ℚ}

theorem ExactOrNone.of_le (holds : ExactOrNone reply places x)
    (few : |x| * 10 ^ places ≤ maxCoefficient) :
    ∃ result, reply = .ok (some result) ∧ result.value.value = x := by
  unfold ExactOrNone at holds
  rw [if_pos few] at holds
  rcases holds with ⟨result, returned, value, -⟩
  exact ⟨result, returned, value⟩

theorem ExactOrNone.of_gt (holds : ExactOrNone reply places x)
    (many : maxCoefficient < |x| * 10 ^ places) :
    reply = .ok none := by
  unfold ExactOrNone at holds
  rwa [if_neg (not_le.mpr many)] at holds

end Read

/-! ### The operations -/

theorem most_le {exponent : Int} (nonpositive : exponent ≤ 0) :
    exponent + exactPrecision ≤ greatestExponent := by
  unfold exactPrecision greatestExponent
  omega

section WrittenOut

variable {a b : Amount} (left : WrittenOut a) (right : WrittenOut b)
include left right

theorem scale_min : (-min a.value.exponent b.value.exponent).toNat = max a.scale b.scale := by
  unfold WrittenOut at left right
  unfold Amount.scale Decimal.scale
  omega

theorem exactOrNone_checkedAdd :
    ExactOrNone (checkedAdd a b) (max a.scale b.scale) (a.value.value + b.value.value) := by
  have least : -28 ≤ min a.value.exponent b.value.exponent := le_min a.bounded.2 b.bounded.2
  have nonpositive : min a.value.exponent b.value.exponent ≤ 0 := (min_le_left _ _).trans left
  have lowest := leastExponent_le ((by decide : (-56 : Int) ≤ -28).trans least)
  have added := add_of_few (by decide : 1 ≤ exactPrecision) (sum_lt_pow left right least) lowest
    (most_le nonpositive)
  unfold checkedAdd
  rw [added, ← value_exactSum, ← scale_min left right]
  exact exactOrNone_settle_of_le nonpositive least

theorem exactOrNone_checkedSub :
    ExactOrNone (checkedSub a b) (max a.scale b.scale) (a.value.value - b.value.value) := by
  have opposite := exactOrNone_checkedAdd left
    (b := ⟨b.value.negate, b.bounded⟩) (show WrittenOut ⟨b.value.negate, b.bounded⟩ from right)
  rw [value_negate, ← sub_eq_add_neg] at opposite
  exact opposite

theorem exactOrNone_checkedMul :
    ExactOrNone (checkedMul a b) (min maxScale (a.scale + b.scale))
      (cutAt (min maxScale (a.scale + b.scale)) (a.value.value * b.value.value)) := by
  have few : a.value.coefficient * b.value.coefficient < 10 ^ exactPrecision := by
    apply (Nat.mul_le_mul a.bounded.1 b.bounded.1).trans_lt
    norm_num [maxCoefficient, exactPrecision]
  have nonpositive : a.value.exponent + b.value.exponent ≤ 0 := add_nonpos left right
  have least := leastExponent_le (add_le_add a.bounded.2 b.bounded.2)
  have multiplied := mul_of_few (by decide : 1 ≤ exactPrecision) few least (most_le nonpositive)
  have scale : (exactProduct a.value b.value).scale = a.scale + b.scale := by
    change (-(a.value.exponent + b.value.exponent)).toNat =
      (-a.value.exponent).toNat + (-b.value.exponent).toNat
    unfold WrittenOut at left right
    omega
  unfold checkedMul
  rw [multiplied, ← value_exactProduct, ← scale]
  exact exactOrNone_settle nonpositive

theorem exactOrNone_checkedRem (nonzero : b.value.value ≠ 0) :
    ExactOrNone (checkedRem a b) (max a.scale b.scale)
      (a.value.value - b.value.value * integerPart (a.value.value / b.value.value)) := by
  have least : -28 ≤ min a.value.exponent b.value.exponent := le_min a.bounded.2 b.bounded.2
  have nonpositive : min a.value.exponent b.value.exponent ≤ 0 := (min_le_left _ _).trans left
  have lowest := leastExponent_le ((by decide : (-56 : Int) ≤ -28).trans least)
  have few := (Nat.le_add_right _ _).trans_lt (sum_lt_pow left right least)
  have fewWhole : |a.value.value / b.value.value| < (10 : ℚ) ^ exactPrecision := by
    apply (abs_div_le_tens left.abs_value_le nonzero).trans_lt
    norm_num [exactPrecision]
  have divided :=
    rem_of_few (by decide : 1 ≤ exactPrecision) nonzero fewWhole few lowest (most_le nonpositive)
  have notZero : ¬ b.value.isZero := fun zero => nonzero (isZero_iff.mp zero)
  unfold checkedRem
  rw [if_neg notZero, divided, ← value_exactRest, ← scale_min left right]
  exact exactOrNone_settle_of_le nonpositive least

end WrittenOut

/-- On amounts with so many digits after the point, and none left out before it: the sum and the
difference are returned exactly, with the digits of the longer operand, the product cut at 28 digits
after the point, and what a divisor leaves with the sign of the dividend. There is no result just
when the divisor is zero or the digits are more than 96 bits. -/
theorem checked_exactOrNone
    (a b : Amount)
    (left : WrittenOut a)
    (right : WrittenOut b) :
    ExactOrNone (checkedAdd a b) (max a.scale b.scale) (a.value.value + b.value.value) ∧
    ExactOrNone (checkedSub a b) (max a.scale b.scale) (a.value.value - b.value.value) ∧
    ExactOrNone (checkedMul a b) (min maxScale (a.scale + b.scale))
      (cutAt (min maxScale (a.scale + b.scale)) (a.value.value * b.value.value)) ∧
    (b.value.value = 0 → checkedRem a b = .ok none) ∧
    (b.value.value ≠ 0 →
      let rest := a.value.value - b.value.value * integerPart (a.value.value / b.value.value)
      ExactOrNone (checkedRem a b) (max a.scale b.scale) rest ∧ |rest| < |b.value.value| ∧
        0 ≤ rest * a.value.value) := by
  refine ⟨exactOrNone_checkedAdd left right, exactOrNone_checkedSub left right,
    exactOrNone_checkedMul left right, ?_, ?_⟩
  · intro zero
    exact if_pos (isZero_iff.mpr zero)
  · intro nonzero
    have smaller := abs_value_exactRest_lt a.value nonzero
    have sign := exactRest_mul_nonneg a.value b.value
    rw [value_exactRest] at smaller sign
    exact ⟨exactOrNone_checkedRem left right nonzero, smaller, sign⟩

/-- The greatest coefficient with 28 digits after the point, and three parts in ten million: the
difference has a bit too many, and of the product 35 digits stand after the point. -/
theorem checked_exactOrNone_greatest :
    let a : Amount := ⟨⟨false, 79228162514264337593543950335, -28⟩, by decide⟩
    let b : Amount := ⟨⟨true, 3, -7⟩, by decide⟩
    (WrittenOut a ∧ WrittenOut b) ∧
    (∃ sum, checkedAdd a b = .ok (some sum) ∧
      sum.value.value = 79228159514264337593543950335 / 10 ^ 28) ∧
    checkedSub a b = .ok none ∧
    (∃ product, checkedMul a b = .ok (some product) ∧
      product.value.value = -23768448754279301278063 / 10 ^ 28) ∧
    ∃ rest, checkedRem a b = .ok (some rest) ∧
    rest.value.value = 1514264337593543950335 / 10 ^ 28 := by
  intro a b
  have left : WrittenOut a := by
    unfold WrittenOut
    decide
  have right : WrittenOut b := by
    unfold WrittenOut
    decide
  have dividend : a.value.value = 79228162514264337593543950335 / 10 ^ 28 := by
    norm_num [a, Decimal.value, Decimal.signed]
  have divisor : b.value.value = -3 / 10 ^ 7 := by
    norm_num [b, Decimal.value, Decimal.signed]
  have scales : max a.scale b.scale = 28 ∧ min maxScale (a.scale + b.scale) = 28 := by decide
  have quotient : integerPart (a.value.value / b.value.value) = -26409387 := by
    rw [dividend, divisor]
    unfold integerPart
    rw [if_neg (by norm_num), Int.ceil_eq_iff]
    norm_num
  have product : cutAt 28 (a.value.value * b.value.value) = -23768448754279301278063 / 10 ^ 28 := by
    have units : integerPart (a.value.value * b.value.value * 10 ^ 28) =
        -23768448754279301278063 := by
      rw [dividend, divisor]
      unfold integerPart
      rw [if_neg (by norm_num), Int.ceil_eq_iff]
      norm_num
    unfold cutAt
    rw [units]
    norm_num
  have all := checked_exactOrNone a b left right
  rw [scales.1, scales.2, product, quotient, dividend, divisor] at all
  rcases all with ⟨sum, difference, product, -, remainder⟩
  refine ⟨⟨left, right⟩, ?_, ?_, product.of_le (by norm_num [maxCoefficient]), ?_⟩
  · rcases sum.of_le (by norm_num [maxCoefficient]) with ⟨result, returned, value⟩
    exact ⟨result, returned, value.trans (by norm_num)⟩
  · exact difference.of_gt (by norm_num [maxCoefficient])
  · rcases (remainder (by norm_num)).1.of_le (by norm_num [maxCoefficient]) with
      ⟨result, returned, value⟩
    exact ⟨result, returned, value.trans (by norm_num)⟩

end LedgerWire.Amount
