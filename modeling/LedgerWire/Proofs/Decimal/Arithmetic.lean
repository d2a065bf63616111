import Mathlib.Data.Nat.Cast.Field
import LedgerWire.Decimal.Arithmetic
import LedgerWire.Proofs.Decimal.Rounding

/-!
Contract: what the operations on decimals compute. A sum, a difference, a product or a quotient that
is not too great is there, and is the exact number up to one rounding.

Owns:
- the values of `add`, `sub`, `mul` and `div`.

Does not own: what rounding may change.
-/

namespace LedgerWire.Decimal

variable {precision : Nat}

/-! ### Signs -/

/-- The factor that a sign stands for. -/
def signFactor (negative : Bool) : ℚ := if negative then -1 else 1

theorem signFactor_bne (first second : Bool) :
    signFactor (first != second) = signFactor first * signFactor second := by
  unfold signFactor
  cases first <;> cases second <;> norm_num

theorem signFactor_mul_self (negative : Bool) : signFactor negative * signFactor negative = 1 := by
  unfold signFactor
  cases negative <;> norm_num

theorem value_eq_signFactor (d : Decimal) :
    d.value = signFactor d.negative * (d.coefficient * (10 : ℚ) ^ d.exponent) := by
  unfold value signed signFactor
  cases d.negative <;> simp

/-! ### Sums and products -/

theorem value_of_natAbs (total exponent : Int) {negative : Bool}
    (sign : total ≠ 0 → (negative = true ↔ total < 0)) :
    (mk negative total.natAbs exponent).value = total * (10 : ℚ) ^ exponent := by
  have signed : (mk negative total.natAbs exponent).signed = total := by
    unfold Decimal.signed
    by_cases zero : total = 0
    · simp [zero]
    · cases negative with
      | false => simpa using sign zero
      | true =>
        have := (sign zero).mp rfl
        simp only [if_true]
        omega
  unfold value
  rw [signed]

/-- The sum before it is rounded. -/
def exactSum (a b : Decimal) : Decimal :=
  let exponent := min a.exponent b.exponent
  let total := a.signedAt exponent + b.signedAt exponent
  ⟨if total = 0 then a.negative && b.negative else total < 0, total.natAbs, exponent⟩

theorem value_exactSum (a b : Decimal) : (exactSum a b).value = a.value + b.value := by
  unfold exactSum
  rw [value_of_natAbs _ _ (fun nonzero => by simp [nonzero]),
    a.value_eq_signedAt (min_le_left _ b.exponent), b.value_eq_signedAt (min_le_right a.exponent _)]
  push_cast
  ring

theorem exists_add (one : 1 ≤ precision) (a b : Decimal)
    (bounded : |a.value + b.value| ≤ (10 : ℚ) ^ greatestExponent) :
    ∃ result, add precision a b = .ok result ∧
      Rounded precision (a.value + b.value) result.value := by
  rw [← value_exactSum] at bounded ⊢
  exact exists_finish one bounded

theorem rounded_of_add (one : 1 ≤ precision) {a b result : Decimal}
    (added : add precision a b = .ok result) :
    Rounded precision (a.value + b.value) result.value := by
  rw [← value_exactSum]
  exact rounded_of_finish one added

theorem exists_sub (one : 1 ≤ precision) (a b : Decimal)
    (bounded : |a.value - b.value| ≤ (10 : ℚ) ^ greatestExponent) :
    ∃ result, sub precision a b = .ok result ∧
      Rounded precision (a.value - b.value) result.value := by
  rw [sub_eq_add_neg, ← value_negate] at bounded ⊢
  exact exists_add one a b.negate bounded

theorem rounded_of_sub (one : 1 ≤ precision) {a b result : Decimal}
    (subtracted : sub precision a b = .ok result) :
    Rounded precision (a.value - b.value) result.value := by
  rw [sub_eq_add_neg, ← value_negate]
  exact rounded_of_add one subtracted

/-- The product before it is rounded. -/
def exactProduct (a b : Decimal) : Decimal :=
  ⟨a.negative != b.negative, a.coefficient * b.coefficient, a.exponent + b.exponent⟩

theorem value_exactProduct (a b : Decimal) : (exactProduct a b).value = a.value * b.value := by
  unfold exactProduct
  rw [value_eq_signFactor a, value_eq_signFactor b, value_eq_signFactor, signFactor_bne,
    zpow_add₀ (by norm_num)]
  push_cast
  ring

theorem exists_mul (one : 1 ≤ precision) (a b : Decimal)
    (bounded : |a.value * b.value| ≤ (10 : ℚ) ^ greatestExponent) :
    ∃ result, mul precision a b = .ok result ∧
      Rounded precision (a.value * b.value) result.value := by
  rw [← value_exactProduct] at bounded ⊢
  exact exists_finish one bounded

theorem rounded_of_mul (one : 1 ≤ precision) {a b result : Decimal}
    (multiplied : mul precision a b = .ok result) :
    Rounded precision (a.value * b.value) result.value := by
  rw [← value_exactProduct]
  exact rounded_of_finish one multiplied

/-! ### Quotients -/

/-- Whether two numbers lie on the same side of every number that needs no rounding. -/
def SameSide (precision : Nat) (left right : ℚ) : Prop :=
  ∀ x, Representable precision x → (x ≤ left ↔ x ≤ right) ∧ (left ≤ x ↔ right ≤ x)

theorem SameSide.refl (x : ℚ) : SameSide precision x x := fun _ _ => ⟨Iff.rfl, Iff.rfl⟩

theorem SameSide.signed {left right : ℚ} (same : SameSide precision left right) (negative : Bool) :
    SameSide precision (signFactor negative * left) (signFactor negative * right) := by
  intro x fits
  cases negative with
  | false => simpa [signFactor] using same x fits
  | true =>
    have opposite := same (-x) fits.neg
    simp only [signFactor, if_true, neg_one_mul]
    exact ⟨by rw [le_neg, opposite.2, le_neg], by rw [neg_le, opposite.1, neg_le]⟩

theorem SameSide.rounded {left right rounded : ℚ} (same : SameSide precision left right)
    (holds : Rounded precision right rounded) : Rounded precision left rounded where
  representable := holds.representable
  le_rounded fits below := holds.le_rounded fits ((same _ fits).1.mp below)
  rounded_le fits above := holds.rounded_le fits ((same _ fits).2.mp above)

theorem stripZeros_value (count : Nat) (d : Decimal) : (stripZeros count d).value = d.value := by
  induction count generalizing d with
  | zero => rfl
  | succ count inductionHypothesis =>
    unfold stripZeros
    by_cases zero : d.coefficient % 10 = 0
    · rw [if_pos zero, inductionHypothesis, value_eq_signFactor, value_eq_signFactor,
        zpow_add_one₀ (by norm_num)]
      have tenfold : (d.coefficient : ℚ) = (d.coefficient / 10 : Nat) * 10 := by
        exact_mod_cast (Nat.div_mul_cancel (Nat.dvd_of_mod_eq_zero zero)).symm
      rw [tenfold]
      ring
    · rw [if_neg zero]

/-- What stands for a quotient that does not come out even: no multiple of five. -/
def sticky (quotient : Nat) : Nat := if quotient % 5 = 0 then quotient + 1 else quotient

theorem sticky_cases (quotient : Nat) :
    sticky quotient % 10 ≠ 0 ∧ (sticky quotient = quotient ∨ sticky quotient = quotient + 1) := by
  unfold sticky
  split_ifs <;> omega

theorem le_sticky (quotient : Nat) : quotient ≤ sticky quotient := by
  rcases (sticky_cases quotient).2 with same | next <;> omega

section Sticky

variable {quotient : Nat} {exact : ℚ} (above : (quotient : ℚ) < exact)
  (below : exact < quotient + 1)
include above below

theorem tens_le_sticky_iff {tenth : Int} :
    ((10 * tenth : Int) : ℚ) ≤ exact ↔ 10 * tenth ≤ sticky quotient := by
  have ⟨noTen, near⟩ := sticky_cases quotient
  constructor
  · intro less
    have : ((10 * tenth : Int) : ℚ) < ((quotient + 1 : Int) : ℚ) :=
      less.trans_lt (by exact_mod_cast below)
    have : 10 * tenth < quotient + 1 := by exact_mod_cast this
    omega
  · intro less
    have : 10 * tenth ≤ quotient := by omega
    exact le_trans (by exact_mod_cast this) above.le

theorem sticky_le_tens_iff {tenth : Int} :
    exact ≤ ((10 * tenth : Int) : ℚ) ↔ sticky quotient ≤ 10 * tenth := by
  have ⟨noTen, near⟩ := sticky_cases quotient
  constructor
  · intro greater
    have : (quotient : Int) < 10 * tenth := by exact_mod_cast above.trans_le greater
    omega
  · intro greater
    have : (quotient + 1 : Int) ≤ 10 * tenth := by omega
    exact below.le.trans (by exact_mod_cast this)

/-- One digit more than the precision tells on which side the quotient lies of every number that
needs no rounding. -/
theorem sameSide_sticky (digits : 10 ^ precision ≤ quotient) (exponent : Int) :
    SameSide precision (exact * 10 ^ exponent) (sticky quotient * 10 ^ exponent) := by
  rintro _ ⟨coefficient, unit, few, -, rfl⟩
  have scale := tens_pos exponent
  by_cases coarse : exponent < unit
  · -- a multiple of ten units
    obtain ⟨tenth, tenfold⟩ : ∃ tenth : Int,
        (coefficient : ℚ) * 10 ^ unit = (10 * tenth : Int) * 10 ^ exponent := by
      refine ⟨coefficient * (10 ^ (unit - (exponent + 1)).toNat : Nat), ?_⟩
      rw [tens_eq (show exponent + 1 ≤ unit by omega), zpow_add_one₀ (by norm_num)]
      push_cast
      ring
    rw [tenfold]
    simp only [mul_le_mul_iff_left₀ scale]
    rw [tens_le_sticky_iff above below, sticky_le_tens_iff above below]
    exact ⟨by exact_mod_cast Iff.rfl, by exact_mod_cast Iff.rfl⟩
  · -- too few digits to come near
    have small : (coefficient : ℚ) * 10 ^ unit < quotient * 10 ^ exponent := by
      have fewer : coefficient < quotient := by
        have := (le_abs_self coefficient).trans_lt few
        have : (10 ^ precision : Int) ≤ quotient := by exact_mod_cast digits
        omega
      have fewerQ : (coefficient : ℚ) < quotient := by exact_mod_cast fewer
      calc
        (coefficient : ℚ) * 10 ^ unit < quotient * 10 ^ unit :=
          mul_lt_mul_of_pos_right fewerQ (tens_pos unit)
        _ ≤ quotient * 10 ^ exponent :=
          mul_le_mul_of_nonneg_left (tens_le_tens (by omega)) (Nat.cast_nonneg _)
    have stickyLarge : (quotient : ℚ) ≤ sticky quotient := by exact_mod_cast le_sticky quotient
    have belowExact := small.trans (mul_lt_mul_of_pos_right above scale)
    have belowSticky := small.trans_le (mul_le_mul_of_nonneg_right stickyLarge scale.le)
    exact ⟨iff_of_true belowExact.le belowSticky.le,
      iff_of_false (not_le.mpr belowExact) (not_le.mpr belowSticky)⟩

end Sticky

theorem exists_finish_of_sameSide (one : 1 ≤ precision) {x : ℚ} {near : Decimal}
    (same : SameSide precision x near.value) (bounded : |x| ≤ (10 : ℚ) ^ greatestExponent) :
    ∃ result, finish precision near = .ok result ∧ Rounded precision x result.value := by
  have greatest := representable_greatest one
  have nearBounded : |near.value| ≤ (10 : ℚ) ^ greatestExponent := by
    rw [abs_le] at bounded ⊢
    exact ⟨(same _ greatest.neg).1.mp bounded.1, (same _ greatest).2.mp bounded.2⟩
  obtain ⟨result, finished, rounded⟩ := exists_finish one nearBounded
  exact ⟨result, finished, same.rounded rounded⟩

theorem value_div_value (a b : Decimal) (shift : Int) :
    a.value / b.value = signFactor (a.negative != b.negative) *
      (((a.coefficient * 10 ^ shift.toNat : Nat) : ℚ) /
        (b.coefficient * 10 ^ (-shift).toNat : Nat) *
        10 ^ (a.exponent - b.exponent - shift)) := by
  have moved : (10 : ℚ) ^ shift.toNat = 10 ^ shift * 10 ^ (-shift).toNat := by
    rw [← zpow_natCast, ← zpow_natCast, ← zpow_add₀ (by norm_num)]
    congr 1
    omega
  have inverse : (signFactor b.negative)⁻¹ = signFactor b.negative :=
    inv_eq_of_mul_eq_one_left (signFactor_mul_self _)
  rw [value_eq_signFactor a, value_eq_signFactor b, signFactor_bne, zpow_sub₀ (by norm_num),
    zpow_sub₀ (by norm_num)]
  push_cast
  rw [moved, ← mul_assoc (a.coefficient : ℚ), mul_div_mul_right _ _ (by positivity),
    mul_div_mul_comm, div_eq_mul_inv (signFactor a.negative), inverse]
  field_simp

theorem pow_le_quotient {a b : Nat} (aPositive : 0 < a) (bPositive : 0 < b) {shift : Int}
    (digits : shift = (digitCount b : Int) - digitCount a + precision + 1) :
    10 ^ precision ≤ a * 10 ^ shift.toNat / (b * 10 ^ (-shift).toNat) := by
  have := digitCount_pos a
  rw [Nat.le_div_iff_mul_le (by positivity)]
  calc
    10 ^ precision * (b * 10 ^ (-shift).toNat) ≤
        10 ^ precision * (10 ^ digitCount b * 10 ^ (-shift).toNat) :=
      Nat.mul_le_mul_left _ (Nat.mul_le_mul_right _ (lt_pow_digitCount b).le)
    _ = 10 ^ (digitCount a - 1) * 10 ^ shift.toNat := by
      rw [← Nat.pow_add, ← Nat.pow_add, ← Nat.pow_add]
      congr 1
      omega
    _ ≤ a * 10 ^ shift.toNat := Nat.mul_le_mul_right _ (pow_digitCount_le aPositive)

theorem lt_div_of_mod_ne_zero {dividend divisor : Nat} (uneven : dividend % divisor ≠ 0)
    (positive : 0 < divisor) :
    ((dividend / divisor : Nat) : ℚ) < dividend / divisor ∧
      (dividend : ℚ) / divisor < (dividend / divisor : Nat) + 1 := by
  have parts := Nat.div_add_mod dividend divisor
  have rest := Nat.mod_lt dividend positive
  have divisorPositive : (0 : ℚ) < divisor := by exact_mod_cast positive
  constructor
  · rw [lt_div_iff₀ divisorPositive]
    have : dividend / divisor * divisor < dividend := by
      rw [Nat.mul_comm]
      omega
    exact_mod_cast this
  · rw [div_lt_iff₀ divisorPositive]
    have : dividend < (dividend / divisor + 1) * divisor := by
      rw [Nat.mul_comm, Nat.mul_add_one]
      omega
    exact_mod_cast this

/-- What a quotient is finished from: the quotient itself, or a number that is rounded like it. -/
theorem div_eq_finish (precision : Nat) (a : Decimal) {b : Decimal} (nonzero : b.value ≠ 0) :
    ∃ near, div precision a b = finish precision near ∧
      SameSide precision (a.value / b.value) near.value := by
  unfold div
  simp only
  by_cases zero : a.isZero
  · rw [if_pos zero]
    have quotient : (mk (a.negative != b.negative) 0 (a.exponent - b.exponent)).value =
        a.value / b.value := by
      rw [isZero_iff.mp zero, zero_div, value_eq_signFactor]
      simp
    refine ⟨_, rfl, ?_⟩
    rw [quotient]
    exact SameSide.refl _
  rw [if_neg zero]
  have aPositive : 0 < a.coefficient := Nat.pos_of_ne_zero (by simpa [isZero] using zero)
  have bPositive : 0 < b.coefficient := by
    rw [Ne, ← isZero_iff] at nonzero
    exact Nat.pos_of_ne_zero (by simpa [isZero] using nonzero)
  generalize digits : (digitCount b.coefficient : Int) - digitCount a.coefficient +
    precision + 1 = shift
  have enough := pow_le_quotient aPositive bPositive digits.symm
  have divisorPositive : 0 < b.coefficient * 10 ^ (-shift).toNat := by positivity
  have ratio := value_div_value a b shift
  generalize a.coefficient * 10 ^ shift.toNat = dividend at ratio enough ⊢
  generalize b.coefficient * 10 ^ (-shift).toNat = divisor at ratio enough divisorPositive ⊢
  by_cases even : dividend % divisor = 0
  · rw [if_pos even]
    refine ⟨_, rfl, ?_⟩
    rw [stripZeros_value, ratio, value_eq_signFactor,
      Nat.cast_div (Nat.dvd_of_mod_eq_zero even) (by positivity)]
    exact SameSide.refl _
  · rw [if_neg even]
    have ⟨above, below⟩ := lt_div_of_mod_ne_zero even divisorPositive
    refine ⟨_, rfl, ?_⟩
    rw [ratio, value_eq_signFactor]
    exact (sameSide_sticky above below enough _).signed _

theorem exists_div (one : 1 ≤ precision) (a : Decimal) {b : Decimal} (nonzero : b.value ≠ 0)
    (bounded : |a.value / b.value| ≤ (10 : ℚ) ^ greatestExponent) :
    ∃ result, div precision a b = .ok result ∧
      Rounded precision (a.value / b.value) result.value := by
  obtain ⟨near, finished, same⟩ := div_eq_finish precision a nonzero
  rw [finished]
  exact exists_finish_of_sameSide one same bounded

/-- A quotient differs from the exact one by rounding only, however small the divisor is. -/
theorem rounded_of_div (one : 1 ≤ precision) {a b result : Decimal} (nonzero : b.value ≠ 0)
    (divided : div precision a b = .ok result) :
    Rounded precision (a.value / b.value) result.value := by
  obtain ⟨near, finished, same⟩ := div_eq_finish precision a nonzero
  rw [finished] at divided
  exact same.rounded (rounded_of_finish one divided)

theorem coefficient_lt_of_div (one : 1 ≤ precision) {a b result : Decimal}
    (divided : div precision a b = .ok result) : result.coefficient < 10 ^ precision := by
  unfold div at divided
  simp only at divided
  split_ifs at divided
  · exact coefficient_lt_of_finish one divided
  · exact coefficient_lt_of_finish one divided
  · exact coefficient_lt_of_finish one divided
  · exact coefficient_lt_of_finish one divided

end LedgerWire.Decimal
