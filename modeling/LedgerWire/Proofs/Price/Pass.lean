import LedgerWire.Price
import LedgerWire.Proofs.Decimal.Arithmetic

/-!
Contract: one step of a price's continued fraction, in terms of the values of its decimals.
Convergents are worked out exactly; what is left of the number and its reciprocal are rounded.

Owns:
- `Price.Convergent.IsFraction`;
- the step of `expand` as an equation, and the step at which it stops.

Does not own: what the roundings amount to over many steps.
-/

namespace LedgerWire.Price

open Decimal

/-- Whether the parts of a convergent are these natural numbers. -/
def Convergent.IsFraction (convergent : Convergent) (parts : Nat × Nat) : Prop :=
  convergent.numerator.value = parts.1 ∧ convergent.denominator.value = parts.2

theorem value_partBound : partBound.value = 2147483647 := by
  unfold partBound
  rw [value_ofInt]
  rfl

theorem lt_partBound_iff {d : Decimal} {part : Nat} (value : d.value = part) :
    d.compare partBound = .lt ↔ part < 2147483647 := by
  rw [compare_eq_lt_iff, value_partBound, value]
  exact_mod_cast Iff.rfl

theorem beq_gt_partBound {d : Decimal} :
    (d.compare partBound == .gt) = false ↔ d.value ≤ 2147483647 := by
  rw [beq_eq_false_iff_ne, Ne, compare_eq_gt_iff, value_partBound, not_lt]

/-! ### Exact operations -/

theorem one_le_precision : 1 ≤ precision := by decide

theorem natCast_le_greatest {n : Nat} (few : n < 10 ^ 28) :
    |(n : ℚ)| ≤ (10 : ℚ) ^ greatestExponent := by
  have power : (n : ℚ) ≤ 10 ^ (28 : Int) := by exact_mod_cast few.le
  rw [Nat.abs_cast]
  exact power.trans (tens_le_tens (by unfold greatestExponent; omega))

/-- A product of natural numbers and a sum of such are not rounded. -/
theorem exists_multiplyAdd {whole part older : Decimal} {a p k : Nat} (wholeValue : whole.value = a)
    (partValue : part.value = p) (olderValue : older.value = k) (few : a * p + k < 10 ^ 28) :
    ∃ result,
      (whole.mul precision part >>= fun product => product.add precision older) = .ok result ∧
      result.value = (a * p + k : Nat) := by
  have productExact : whole.value * part.value = ((a * p : Nat) : ℚ) := by
    rw [wholeValue, partValue]
    push_cast
    rfl
  obtain ⟨product, multiplied, productRounded⟩ := exists_mul one_le_precision whole part (by
    rw [productExact]
    exact natCast_le_greatest (by omega))
  rw [productExact] at productRounded
  have productValue :=
    productRounded.eq_of_representable (representable_natCast (show _ < 10 ^ 28 by omega))
  have sumExact : product.value + older.value = ((a * p + k : Nat) : ℚ) := by
    rw [productValue, olderValue]
    push_cast
    rfl
  obtain ⟨sum, added, sumRounded⟩ := exists_add one_le_precision product older (by
    rw [sumExact]
    exact natCast_le_greatest (by omega))
  rw [sumExact] at sumRounded
  refine ⟨sum, ?_,
    sumRounded.eq_of_representable (representable_natCast (show _ < 10 ^ 28 by omega))⟩
  rw [multiplied]
  exact added

theorem exists_next {older newer : Convergent} {olderParts newerParts : Nat × Nat}
    {whole : Decimal} {a : Nat}
    (olderIs : older.IsFraction olderParts) (newerIs : newer.IsFraction newerParts)
    (wholeValue : whole.value = a) (numeratorFew : a * newerParts.1 + olderParts.1 < 10 ^ 28)
    (denominatorFew : a * newerParts.2 + olderParts.2 < 10 ^ 28) :
    ∃ next, older.next newer whole = .ok next ∧
      next.IsFraction (a * newerParts.1 + olderParts.1, a * newerParts.2 + olderParts.2) := by
  obtain ⟨numerator, numeratorMade, numeratorValue⟩ :=
    exists_multiplyAdd wholeValue newerIs.1 olderIs.1 numeratorFew
  obtain ⟨denominator, denominatorMade, denominatorValue⟩ :=
    exists_multiplyAdd wholeValue newerIs.2 olderIs.2 denominatorFew
  refine ⟨⟨numerator, denominator⟩, ?_, numeratorValue, denominatorValue⟩
  unfold Convergent.next
  rw [← bind_assoc, numeratorMade]
  change (whole.mul precision newer.denominator >>= fun product =>
    product.add precision older.denominator >>=
    fun denominator => pure (Convergent.mk numerator denominator)) = _
  rw [← bind_assoc, denominatorMade]
  rfl

/-! ### Rounded operations -/

theorem error_of_rounded {exact rounded : ℚ} (holds : Rounded precision exact rounded)
    (large : 1 / 10 ^ 28 ≤ exact) : |rounded - exact| ≤ exact / 10 ^ 27 := by
  have tiny : (10 : ℚ) ^ (-greatestExponent) ≤ 1 / 10 ^ 28 := by
    have := tens_le_tens (show -greatestExponent ≤ -28 by unfold greatestExponent; omega)
    norm_num at this ⊢
    exact this
  have positive : 0 < exact := lt_of_lt_of_le (by norm_num) large
  have error := holds.error one_le_precision (by rw [abs_of_pos positive]; exact tiny.trans large)
  rw [abs_of_pos positive] at error
  calc
    |rounded - exact| ≤ 10 ^ (1 - (precision : Int)) * exact := error
    _ = exact / 10 ^ 27 := by
      unfold precision
      norm_num
      ring

theorem representable_one : Representable precision 1 := by
  exact_mod_cast representable_natCast (show 1 < 10 ^ precision by decide)

theorem isZero_of_rounded {d : Decimal} (holds : Rounded precision 0 d.value) : d.isZero = true :=
  isZero_iff.mpr (holds.eq_of_representable representable_zero)

/-- What is left of a number has a reciprocal that is not below one. -/
theorem exists_reciprocal {fraction : Decimal} {remainder : ℚ}
    (holds : Rounded precision remainder fraction.value)
    (large : 1 / 10 ^ 27 ≤ remainder) (proper : remainder ≤ 1) :
    |fraction.value - remainder| ≤ remainder / 10 ^ 27 ∧ fraction.isZero = false ∧
      ∃ reciprocal, (Decimal.ofInt 1).div precision fraction = .ok reciprocal ∧
        Representable precision reciprocal.value ∧ 1 ≤ reciprocal.value ∧
        |reciprocal.value - 1 / fraction.value| ≤ 1 / fraction.value / 10 ^ 27 := by
  have error := error_of_rounded holds (le_trans (by norm_num) large)
  have fractionLarge : 1 / 10 ^ 28 ≤ fraction.value := by
    norm_num at large ⊢
    linarith [(abs_le.mp error).1]
  have fractionProper : fraction.value ≤ 1 := holds.rounded_le representable_one proper
  have positive : 0 < fraction.value := lt_of_lt_of_le (by norm_num) fractionLarge
  have nonzero := isZero_eq_false_iff.mpr positive.ne'
  have exact : (Decimal.ofInt 1).value / fraction.value = 1 / fraction.value := by
    rw [value_ofInt, Int.cast_one]
  have bounded : |(Decimal.ofInt 1).value / fraction.value| ≤ (10 : ℚ) ^ greatestExponent := by
    have power := tens_le_tens (show 28 ≤ greatestExponent by unfold greatestExponent; omega)
    rw [exact, abs_of_pos (by positivity), div_le_iff₀ positive]
    norm_num at power fractionLarge ⊢
    nlinarith
  obtain ⟨reciprocal, divided, rounded⟩ :=
    exists_div one_le_precision (Decimal.ofInt 1) positive.ne' bounded
  rw [exact] at rounded
  have improper : 1 ≤ 1 / fraction.value := (one_le_div positive).mpr fractionProper
  exact ⟨error, nonzero, reciprocal, divided, rounded.representable,
    rounded.le_rounded representable_one improper,
    error_of_rounded rounded (le_trans (by norm_num) improper)⟩

/-! ### One step -/

/-- What is left of a number when the greatest integer not above it is taken away. -/
theorem exists_fraction (number : Decimal) :
    ∃ fraction, number.sub precision number.floor = .ok fraction ∧
      Rounded precision (Int.fract number.value) fraction.value := by
  have exact : number.value - number.floor.value = Int.fract number.value := by
    rw [value_floor]
    rfl
  have bounded : |number.value - number.floor.value| ≤ (10 : ℚ) ^ greatestExponent := by
    have one : (1 : ℚ) ≤ 10 ^ greatestExponent := one_le_zpow₀ (by norm_num) (by decide)
    rw [exact, abs_of_nonneg (Int.fract_nonneg _)]
    exact (Int.fract_lt_one _).le.trans one
  obtain ⟨fraction, subtracted, rounded⟩ := exists_sub one_le_precision number number.floor bounded
  rw [exact] at rounded
  exact ⟨fraction, subtracted, rounded⟩

variable {number : Decimal} {older newer : Convergent}

theorem expand_of_gt (passes : Nat) (above : 2147483647 < number.value) :
    expand passes number older newer = .ok newer := by
  cases passes with
  | zero => rfl
  | succ passes =>
    unfold expand
    rw [← value_partBound, ← compare_eq_gt_iff] at above
    simp [above]

/-- A step from a number that is not above the bound. What is left of the number is rounded; the
next convergent is exact. -/
theorem expand_succ {olderParts newerParts : Nat × Nat} {a : Nat} (passes : Nat)
    (below : number.value ≤ 2147483647) (floor : ⌊number.value⌋ = a)
    (olderIs : older.IsFraction olderParts) (newerIs : newer.IsFraction newerParts)
    (numeratorFew : a * newerParts.1 + olderParts.1 < 10 ^ 28)
    (denominatorFew : a * newerParts.2 + olderParts.2 < 10 ^ 28) :
    ∃ fraction next, Rounded precision (Int.fract number.value) fraction.value ∧
      next.IsFraction (a * newerParts.1 + olderParts.1, a * newerParts.2 + olderParts.2) ∧
      expand (passes + 1) number older newer =
        if 2147483647 ≤ a * newerParts.2 + olderParts.2 ∨
        2147483647 ≤ a * newerParts.1 + olderParts.1 then
          .ok newer
        else if fraction.isZero then
          .ok next
        else
          (Decimal.ofInt 1).div precision fraction >>= fun reciprocal =>
            expand passes reciprocal newer next := by
  have wholeValue : number.floor.value = a := by
    rw [value_floor, floor]
    push_cast
    rfl
  obtain ⟨fraction, subtracted, fractionRounded⟩ := exists_fraction number
  obtain ⟨next, made, nextIs⟩ := exists_next olderIs newerIs wholeValue numeratorFew denominatorFew
  refine ⟨fraction, next, fractionRounded, nextIs, ?_⟩
  have notAbove := beq_gt_partBound.mpr below
  have outOfRange :
      (next.denominator.compare partBound != .lt || next.numerator.compare partBound != .lt) =
      true ↔
      2147483647 ≤ a * newerParts.2 + olderParts.2 ∨
      2147483647 ≤ a * newerParts.1 + olderParts.1 := by
    rw [Bool.or_eq_true, bne_iff_ne, bne_iff_ne, Ne, Ne, lt_partBound_iff nextIs.1,
      lt_partBound_iff nextIs.2, not_lt, not_lt]
  rw [expand, notAbove]
  simp only [subtracted, made, outOfRange, bind, Except.bind, Bool.false_eq_true, if_false]
  rfl

end LedgerWire.Price
