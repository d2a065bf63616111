import LedgerWire.Proofs.Price.Passes

/-!
Contract: how far from zero the convergents of a number may be, whatever its sign. After the first
pass every convergent has a natural denominator in range, and a numerator that is below the bound
and not lower than the number requires. There is no bound on how low that is.

Owns:
- `Price.Convergent.Within`, which every convergent that is taken keeps;
- the convergent found for a whole number.

Does not own: how close a convergent is to the number.
-/

namespace LedgerWire.Price

open Decimal

variable {number : Decimal} {older newer next : Convergent}

/-! ### Numerators -/

/-- The lowest numerator over a denominator, if no number below `-10 ^ digits` is expanded. -/
def lowest (digits part : Nat) : ℚ := -(10 ^ digits * part)

theorem representable_lowest (digits : Nat) {part : Nat} (few : part < 10 ^ 28) :
    Representable precision (lowest digits part) := by
  refine ⟨-part, digits, ?_, ?_, ?_⟩
  · rw [abs_neg, Nat.abs_cast]
    exact_mod_cast few
  · unfold leastExponent greatestExponent precision
    omega
  · unfold lowest
    push_cast
    rw [zpow_natCast]
    ring

theorem lowest_one (digits : Nat) : lowest digits 1 = -10 ^ digits := by
  unfold lowest
  rw [Nat.cast_one, mul_one]

theorem lowest_mul (digits whole part : Nat) :
    lowest digits (whole * part) = whole * lowest digits part := by
  unfold lowest
  push_cast
  ring

theorem lowest_add (digits part older : Nat) :
    lowest digits (part + older) = lowest digits part + lowest digits older := by
  unfold lowest
  push_cast
  ring

/-! ### Convergents in bounds -/

/-- Whether a convergent has this denominator, in range, and neither a numerator above the range nor
one lower than numbers down to `-10 ^ digits` require. -/
structure Convergent.Within (digits : Nat) (convergent : Convergent) (part : Nat) : Prop
    extends convergent.Over part where
  lowest_le : lowest digits part ≤ convergent.numerator.value
  numerator_lt : convergent.numerator.value < 2147483647

variable {digits olderPart newerPart : Nat}

theorem within_formal : formalConvergents.2.Within digits 0 where
  toOver := over_formal.2
  lowest_le := by simp [formalConvergents, lowest]
  numerator_lt := by norm_num [formalConvergents]

/-- The first convergent that is taken is in bounds. -/
theorem Takes.within_one (takes : Takes number formalConvergents.1 formalConvergents.2 next)
    (above : -(10 : ℚ) ^ digits ≤ number.value) : next.Within digits 1 where
  toOver := takes.over_one
  lowest_le := by
    have floorAbove : ((-10 ^ digits : Int) : ℚ) ≤ ⌊number.value⌋ := by
      exact_mod_cast Int.le_floor.mpr (by exact_mod_cast above)
    have representable := representable_lowest digits (show 1 < 10 ^ 28 by norm_num)
    refine le_multiplyAdd representable representable ?_ ?_ (next_eq_ok takes.made).1
    · rw [lowest_one, value_floor]
      simpa [formalConvergents] using floorAbove
    · simp [formalConvergents]
  numerator_lt := takes.numerator_lt

/-- Every further convergent that is taken is in bounds if the two before it are. -/
theorem Takes.exists_within (takes : Takes number older newer next)
    (olderWithin : older.Within digits olderPart)
    (newerWithin : newer.Within digits newerPart) (positive : 1 ≤ newerPart)
    (one : 1 ≤ number.value) :
    ∃ part, 1 ≤ part ∧ next.Within digits part := by
  obtain ⟨whole, wholeValue, wholePositive, wholeLe, nextOver⟩ :=
    takes.exists_over olderWithin.toOver newerWithin.toOver one
  have few := multiplyAdd_few wholeLe newerWithin.part_lt olderWithin.part_lt
  refine ⟨whole * newerPart + olderPart, ?_, nextOver, ?_, takes.numerator_lt⟩
  · exact Nat.le_add_right_of_le (Nat.mul_pos wholePositive positive)
  · refine le_multiplyAdd (representable_lowest digits (show whole * newerPart < 10 ^ 28 by omega))
      (representable_lowest digits few) ?_ ?_ (next_eq_ok takes.made).1
    · rw [lowest_mul, wholeValue]
      exact mul_le_mul_of_nonneg_left newerWithin.lowest_le (Nat.cast_nonneg whole)
    · rw [lowest_add]
      exact add_le_add_right olderWithin.lowest_le _

/-- The convergent found for a number is within bounds. Its denominator is zero only if it is the
formal one. -/
theorem approximate_within {result : Convergent} (above : -(10 : ℚ) ^ digits ≤ number.value)
    (found : approximate number = .ok result) :
    ∃ part, result.Within digits part ∧ (part = 0 → result = formalConvergents.2) := by
  let Kept (older newer : Convergent) : Prop :=
    ∃ olderPart newerPart, older.Within digits olderPart ∧ newer.Within digits newerPart ∧
      1 ≤ newerPart
  have kept : result = formalConvergents.2 ∨ ∃ before, Kept before result := by
    refine eq_or_exists_kept_of_approximate ?_ ?_ found
    · intro number older newer next kept one takes
      obtain ⟨olderPart, newerPart, olderWithin, newerWithin, positive⟩ := kept
      obtain ⟨part, partPositive, within⟩ :=
        takes.exists_within olderWithin newerWithin positive one
      exact ⟨newerPart, part, newerWithin, within, partPositive⟩
    · intro next takes
      exact ⟨0, 1, within_formal, takes.within_one above, le_rfl⟩
  rcases kept with rfl | ⟨before, -, part, -, within, positive⟩
  · exact ⟨0, within_formal, fun _ => rfl⟩
  · exact ⟨part, within, fun zero => absurd positive (by omega)⟩

/-! ### Whole numbers -/

theorem exists_first {whole : Decimal} (bounded : |whole.value| ≤ (10 : ℚ) ^ greatestExponent) :
    ∃ next, formalConvergents.1.next formalConvergents.2 whole = .ok next := by
  have numeratorExact : whole.value * formalConvergents.2.numerator.value = whole.value := by
    simp [formalConvergents]
  have denominatorExact : whole.value * formalConvergents.2.denominator.value = 0 := by
    simp [formalConvergents]
  obtain ⟨numeratorProduct, numeratorMultiplied, numeratorRounded⟩ :=
    exists_mul one_le_precision whole formalConvergents.2.numerator
      (by simpa only [numeratorExact] using bounded)
  obtain ⟨denominatorProduct, denominatorMultiplied, denominatorRounded⟩ :=
    exists_mul one_le_precision whole formalConvergents.2.denominator (by
      rw [denominatorExact, abs_zero]
      exact (tens_pos _).le)
  rw [numeratorExact] at numeratorRounded
  rw [denominatorExact] at denominatorRounded
  have denominatorZero := isZero_iff.mp (isZero_of_rounded denominatorRounded)
  obtain ⟨numerator, numeratorAdded, -⟩ :=
    exists_add one_le_precision numeratorProduct formalConvergents.1.numerator (by
      rw [show formalConvergents.1.numerator.value = 0 by simp [formalConvergents], add_zero]
      exact numeratorRounded.abs_le_greatest one_le_precision bounded)
  obtain ⟨denominator, denominatorAdded, -⟩ :=
    exists_add one_le_precision denominatorProduct formalConvergents.1.denominator (by
      rw [denominatorZero, show formalConvergents.1.denominator.value =
        1 by simp [formalConvergents], zero_add, abs_one]
      exact one_le_zpow₀ (by norm_num) (by decide))
  refine ⟨⟨numerator, denominator⟩, ?_⟩
  unfold Convergent.next
  rw [numeratorMultiplied, denominatorMultiplied]
  change (numeratorProduct.add precision formalConvergents.1.numerator >>= fun numerator =>
    denominatorProduct.add precision formalConvergents.1.denominator >>= fun denominator =>
      pure (Convergent.mk numerator denominator)) = _
  rw [numeratorAdded, denominatorAdded]
  rfl

/-- A whole number takes one pass. However low it is, the convergent found for it is as low. -/
theorem approximate_of_whole (integer : number.value = ⌊number.value⌋)
    (low : number.value ≤ -(10 : ℚ) ^ digits)
    (bounded : -(10 : ℚ) ^ greatestExponent ≤ number.value) :
    ∃ result, approximate number = .ok result ∧ result.numerator.value ≤ -(10 : ℚ) ^ digits := by
  have negative : -(10 : ℚ) ^ digits < 0 := neg_lt_zero.mpr (by positivity)
  have floorValue : number.floor.value = number.value := by
    rw [value_floor]
    exact integer.symm
  have floorBounded : |number.floor.value| ≤ (10 : ℚ) ^ greatestExponent := by
    rw [floorValue, abs_le]
    exact ⟨bounded, by linarith [tens_pos greatestExponent]⟩
  obtain ⟨next, made⟩ := exists_first floorBounded
  obtain ⟨fraction, subtracted, fractionRounded⟩ := exists_fraction number
  rw [show Int.fract number.value = 0 from sub_eq_zero.mpr integer] at fractionRounded
  have representable := representable_lowest digits (show 1 < 10 ^ 28 by norm_num)
  rw [lowest_one] at representable
  have nextLow : next.numerator.value ≤ -(10 : ℚ) ^ digits := by
    refine multiplyAdd_le representable representable ?_ ?_ (next_eq_ok made).1
    · rw [floorValue]
      simpa [formalConvergents] using low
    · simp [formalConvergents]
  have takes : Takes number formalConvergents.1 formalConvergents.2 next := {
    below := by linarith
    made := made
    denominator_lt := by
      rw [denominator_first made]
      norm_num
    numerator_lt := by linarith }
  rcases takes.approximate_cases subtracted with ⟨-, found⟩ | ⟨nonzero, -⟩
  · exact ⟨next, found, nextLow⟩
  · rw [isZero_of_rounded fractionRounded] at nonzero
    cases nonzero

end LedgerWire.Price
