import Mathlib.Algebra.Order.Floor.Ring
import Mathlib.Algebra.Order.Floor.Semifield
import Mathlib.Data.Rat.Floor
import Mathlib.Tactic.FieldSimp
import Mathlib.Tactic.Linarith
import Mathlib.Tactic.Positivity
import Mathlib.Tactic.Ring
import LedgerWire.Decimal.Basic

/-!
Contract: the rational number that a decimal stands for. Comparing decimals, taking the integer part
and counting digits are what they are for these numbers, however the value is spread over
coefficient and exponent.

Owns:
- `Decimal.value`, and what comparison, `floor`, `toInt` and `digitCount` say of it.

Does not own: rounding.
-/

namespace LedgerWire

/-! ### Counted digits -/

theorem countDigits_bounds {halvings n : Nat} (below : n < 10 ^ 2 ^ halvings) :
    1 ≤ countDigits halvings n ∧ n < 10 ^ countDigits halvings n ∧
      (0 < n → 10 ^ (countDigits halvings n - 1) ≤ n) := by
  induction halvings generalizing n with
  | zero =>
    simp only [countDigits]
    omega
  | succ halvings inductionHypothesis =>
    unfold countDigits
    by_cases small : n < 10 ^ 2 ^ halvings
    · rw [if_pos small]
      exact inductionHypothesis small
    · rw [if_neg small]
      have square : (10 : Nat) ^ 2 ^ (halvings + 1) = 10 ^ 2 ^ halvings * 10 ^ 2 ^ halvings := by
        rw [← Nat.pow_add, Nat.pow_succ, Nat.mul_two]
      have front : n / 10 ^ 2 ^ halvings < 10 ^ 2 ^ halvings := by
        rw [Nat.div_lt_iff_lt_mul (by positivity), ← square]
        exact below
      have frontPositive : 0 < n / 10 ^ 2 ^ halvings :=
        Nat.div_pos (Nat.le_of_not_lt small) (by positivity)
      obtain ⟨one, above, digit⟩ := inductionHypothesis front
      refine ⟨Nat.le_add_left_of_le one, ?_, fun _ => ?_⟩
      · rw [Nat.pow_add, Nat.mul_comm]
        exact (Nat.div_lt_iff_lt_mul (by positivity)).mp above
      · rw [Nat.add_sub_assoc one, Nat.pow_add, Nat.mul_comm]
        exact (Nat.le_div_iff_mul_le (by positivity)).mp (digit frontPositive)

theorem lt_pow_of_log2 (n : Nat) : n < 10 ^ 2 ^ (n.log2.log2 + 1) :=
  calc
    n < 2 ^ (n.log2 + 1) := Nat.lt_log2_self
    _ ≤ 2 ^ 2 ^ (n.log2.log2 + 1) := Nat.pow_le_pow_right (by omega) Nat.lt_log2_self
    _ ≤ 10 ^ 2 ^ (n.log2.log2 + 1) := Nat.pow_le_pow_left (by omega) _

theorem digitCount_pos (n : Nat) : 1 ≤ digitCount n :=
  (countDigits_bounds (lt_pow_of_log2 n)).1

theorem lt_pow_digitCount (n : Nat) : n < 10 ^ digitCount n :=
  (countDigits_bounds (lt_pow_of_log2 n)).2.1

theorem pow_digitCount_le {n : Nat} (positive : 0 < n) : 10 ^ (digitCount n - 1) ≤ n :=
  (countDigits_bounds (lt_pow_of_log2 n)).2.2 positive

theorem digitCount_le_iff {n digits : Nat} (one : 1 ≤ digits) :
    digitCount n ≤ digits ↔ n < 10 ^ digits := by
  constructor
  · intro few
    exact (lt_pow_digitCount n).trans_le (Nat.pow_le_pow_right (by omega) few)
  · intro below
    by_contra many
    have positive : 0 < n := by
      rcases Nat.eq_zero_or_pos n with rfl | positive
      · exact absurd (show digitCount 0 ≤ digits from one) many
      · exact positive
    have := pow_digitCount_le positive
    have : 10 ^ digits ≤ 10 ^ (digitCount n - 1) := Nat.pow_le_pow_right (by omega) (by omega)
    omega

namespace Decimal

/-! ### The value -/

/-- The number that a decimal stands for. -/
def value (d : Decimal) : ℚ := d.signed * (10 : ℚ) ^ d.exponent

theorem tens_pos (exponent : Int) : (0 : ℚ) < 10 ^ exponent := zpow_pos (by norm_num) exponent

theorem tens_eq {low high : Int} (ordered : low ≤ high) :
    (10 : ℚ) ^ high = ((10 ^ (high - low).toNat : Nat) : ℚ) * 10 ^ low := by
  have split : high = ((high - low).toNat : Int) + low := by omega
  conv_lhs => rw [split, zpow_add₀ (by norm_num), zpow_natCast]
  push_cast
  rfl

theorem tens_le_tens {low high : Int} (ordered : low ≤ high) : (10 : ℚ) ^ low ≤ 10 ^ high :=
  zpow_le_zpow_right₀ (by norm_num) ordered

theorem value_eq_signedAt (d : Decimal) {exponent : Int} (below : exponent ≤ d.exponent) :
    d.value = d.signedAt exponent * (10 : ℚ) ^ exponent := by
  unfold value signedAt
  rw [tens_eq below]
  push_cast
  ring

theorem signedAt_lt_signedAt_iff {a b : Decimal} {exponent : Int} (left : exponent ≤ a.exponent)
    (right : exponent ≤ b.exponent) :
    a.signedAt exponent < b.signedAt exponent ↔ a.value < b.value := by
  rw [a.value_eq_signedAt left, b.value_eq_signedAt right, mul_lt_mul_iff_left₀ (tens_pos exponent)]
  exact_mod_cast Iff.rfl

theorem compare_eq_gt_iff {a b : Decimal} : a.compare b = .gt ↔ b.value < a.value := by
  unfold compare
  rw [compare_gt_iff_gt]
  exact signedAt_lt_signedAt_iff (min_le_right _ _) (min_le_left _ _)

theorem compare_eq_lt_iff {a b : Decimal} : a.compare b = .lt ↔ a.value < b.value := by
  unfold compare
  rw [compare_lt_iff_lt]
  exact signedAt_lt_signedAt_iff (min_le_left _ _) (min_le_right _ _)

@[simp] theorem value_ofInt (n : Int) : (ofInt n).value = n := by
  unfold ofInt value signed
  by_cases below : n < 0
  · simp [below, abs_of_neg]
  · simp [below, abs_of_nonneg (not_lt.mp below)]

@[simp] theorem value_negate (d : Decimal) : d.negate.value = -d.value := by
  unfold negate withSign value signed
  cases d.negative <;> simp

theorem isZero_iff {d : Decimal} : d.isZero = true ↔ d.value = 0 := by
  unfold isZero value signed
  cases d.negative <;> simp [(tens_pos d.exponent).ne']

theorem isZero_eq_false_iff {d : Decimal} : d.isZero = false ↔ d.value ≠ 0 := by
  rw [← Bool.not_eq_true, isZero_iff]

theorem abs_value (d : Decimal) : |d.value| = d.coefficient * (10 : ℚ) ^ d.exponent := by
  unfold value signed
  rw [abs_mul, abs_of_pos (tens_pos d.exponent)]
  cases d.negative <;> simp

/-! ### Integer parts -/

theorem value_of_exponent_neg (d : Decimal) (digitsAfterPoint : d.exponent < 0) :
    d.value = d.signed / ((10 ^ d.scale : Nat) : ℚ) := by
  have exponent : d.exponent = -(d.scale : Int) := by
    unfold scale
    omega
  unfold value
  conv_lhs => rw [exponent, zpow_neg, zpow_natCast]
  push_cast
  rfl

theorem neg_natCast_ediv (n : Nat) {unit : Nat} (positive : 0 < unit) :
    -(n : Int) / unit = -((if n % unit ≠ 0 then n / unit + 1 else n / unit : Nat) : Int) := by
  have parts : (unit * (n / unit) + n % unit : Int) = n := by exact_mod_cast Nat.div_add_mod n unit
  have rest : n % unit < unit := Nat.mod_lt n positive
  by_cases even : n % unit = 0
  · rw [if_neg (by simp [even]),
      Int.neg_ediv_of_dvd (by exact_mod_cast Nat.dvd_of_mod_eq_zero even)]
    push_cast
    rfl
  · rw [if_pos even]
    refine ((Int.ediv_emod_unique (r := (unit : Int) - (n % unit : Nat)) (by omega)).mpr
      ⟨?_, by omega, by omega⟩).1
    push_cast
    linarith

theorem signed_floor (d : Decimal) (digitsAfterPoint : d.exponent < 0) :
    d.floor.signed = d.signed / ((10 ^ d.scale : Nat) : Int) := by
  unfold floor
  rw [if_neg (by omega : ¬ 0 ≤ d.exponent)]
  unfold signed
  have unitPositive : 0 < 10 ^ d.scale := by positivity
  generalize 10 ^ d.scale = unit at unitPositive ⊢
  cases d.negative with
  | false => simp
  | true =>
    rw [if_pos rfl, if_pos rfl, neg_natCast_ediv _ unitPositive]
    simp

theorem value_floor (d : Decimal) : d.floor.value = ⌊d.value⌋ := by
  by_cases whole : 0 ≤ d.exponent
  · unfold floor
    rw [if_pos whole, d.value_eq_signedAt whole]
    simp
  · have exponent : d.floor.exponent = 0 := by
      unfold floor
      rw [if_neg whole]
    rw [d.value_of_exponent_neg (by omega), Rat.floor_intCast_div_natCast,
      ← signed_floor d (by omega), value, exponent, zpow_zero, mul_one]

theorem toInt_eq_of_value {d : Decimal} {n : Int} (integer : d.value = n) : d.toInt = n := by
  unfold toInt
  by_cases whole : 0 ≤ d.exponent
  · rw [if_pos whole]
    rw [d.value_eq_signedAt whole, zpow_zero, mul_one] at integer
    exact_mod_cast integer
  · rw [if_neg whole]
    have unitPositive : 0 < 10 ^ d.scale := by positivity
    rw [d.value_of_exponent_neg (by omega), div_eq_iff (by positivity)] at integer
    have signed : d.signed = n * (10 ^ d.scale : Nat) := by exact_mod_cast integer
    unfold Decimal.signed at signed
    have cancel (m : Int) : m * ((10 ^ d.scale : Nat) : Int) / (10 ^ d.scale : Int) = m := by
      push_cast
      exact Int.mul_ediv_cancel _ (by positivity)
    cases sign : d.negative with
    | false =>
      rw [sign, if_neg (by simp)] at signed
      simp only [signed, cancel]
      simp
    | true =>
      rw [sign, if_pos rfl, neg_eq_iff_eq_neg, ← Int.neg_mul] at signed
      simp only [signed, cancel]
      simp

theorem natAbs_signed (d : Decimal) : d.signed.natAbs = d.coefficient := by
  unfold signed
  cases d.negative <;> simp

/-- The integer part has the size of the number, less what stands after the point. -/
theorem natAbs_toInt (d : Decimal) : d.toInt.natAbs = ⌊|d.value|⌋₊ := by
  by_cases whole : 0 ≤ d.exponent
  · have integer : d.value = d.signedAt 0 := by
      rw [d.value_eq_signedAt whole, zpow_zero, mul_one]
    rw [toInt_eq_of_value integer, integer, ← Int.cast_abs, ← Int.natCast_natAbs, Int.cast_natCast,
      Nat.floor_natCast]
  · have magnitude : |d.value| = (d.coefficient : ℚ) / ((10 ^ d.scale : Nat) : ℚ) := by
      rw [d.value_of_exponent_neg (by omega), abs_div, Nat.abs_cast, ← Int.cast_abs,
        ← Int.natCast_natAbs, natAbs_signed, Int.cast_natCast]
    have quotient : ((d.coefficient : Int) / 10 ^ d.scale).natAbs =
        d.coefficient / 10 ^ d.scale := by
      exact_mod_cast Int.natAbs_natCast (d.coefficient / 10 ^ d.scale)
    rw [magnitude, Nat.floor_div_eq_div]
    unfold toInt
    rw [if_neg whole]
    cases d.negative <;> simp [quotient]

end Decimal
end LedgerWire
