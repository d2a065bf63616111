import LedgerWire.Proofs.Amount.Exact

/-!
Contract: how much of a quotient is kept. Quotients are worked out to 28 digits, but 96 bits hold
many numbers of 29; a quotient that is such a number is returned rounded, and every other quotient
in range exactly.

Owns:
- that a quotient of amounts in range is always returned, and when it is the exact one.

Does not own: quotients by zero, which are none.
-/

namespace LedgerWire.Amount

open Decimal

/-- A decimal of at most 28 digits is never refused; it is cut at 28 digits after the point. -/
theorem exists_bound? {d : Decimal} (few : d.coefficient < 10 ^ quotientPrecision) :
    ∃ amount, bound? d = some amount ∧ amount.value.value = cutAt maxScale d.value ∧
      amount.value.coefficient < 10 ^ quotientPrecision := by
  have inRange {cut : Decimal} (least : -(maxScale : Int) ≤ cut.exponent)
      (fewer : cut.coefficient ≤ d.coefficient) : Bounded cut := by
    refine ⟨?_, least⟩
    have : 10 ^ quotientPrecision ≤ maxCoefficient := by
      norm_num [quotientPrecision, maxCoefficient]
    omega
  unfold bound?
  by_cases long : maxScale < d.scale
  · have fewer : (d.truncateTo maxScale).coefficient ≤ d.coefficient := by
      have coarse : ¬ -(maxScale : Int) ≤ d.exponent := by
        unfold Decimal.scale at long
        omega
      unfold truncateTo
      rw [if_neg coarse]
      exact Nat.div_le_self _ _
    have bounded := inRange (truncateTo_exponent maxScale d).ge fewer
    simp only [if_pos long, dif_pos bounded]
    exact ⟨_, rfl, value_truncateTo maxScale d, fewer.trans_lt few⟩
  · have fine : -(maxScale : Int) ≤ d.exponent := by
      unfold Decimal.scale at long
      omega
    simp only [if_neg long, dif_pos (inRange fine le_rfl)]
    exact ⟨_, rfl, (cutAt_value fine).symm, few⟩

theorem InRange.cutAt_eq {x : ℚ} (inRange : InRange x) : cutAt maxScale x = x := by
  rcases inRange with ⟨n, places, -, fewPlaces, rfl⟩
  have split : (10 : ℚ) ^ maxScale = 10 ^ (maxScale - places) * 10 ^ places := by
    rw [← pow_add, Nat.sub_add_cancel fewPlaces]
  have grid : (n : ℚ) / 10 ^ places * 10 ^ maxScale =
      ((n * 10 ^ (maxScale - places) : Int) : ℚ) := by
    rw [split]
    push_cast
    field_simp
  exact cutAt_of_intCast grid

/-- A quotient by an amount that is not zero is always returned. If the exact quotient is in range,
then what is returned is this if and only if it has at most 28 digits. -/
theorem checkedDiv_eq_iff_representable
    (a b : Amount)
    (made : Made a)
    (nonzero : b.value.value ≠ 0) :
    ∃ quotient, checkedDiv a b = .ok (some quotient) ∧
      (InRange (a.value.value / b.value.value) →
        (quotient.value.value = a.value.value / b.value.value ↔
          Representable quotientPrecision (a.value.value / b.value.value))) := by
  have bounded := (abs_div_le_tens made.writtenOut.abs_value_le nonzero).trans
    (tens_le_tens (by decide : (57 : Int) ≤ 58))
  rcases exists_div (by decide : 1 ≤ quotientPrecision) a.value nonzero
    (abs_le_greatest bounded) with
    ⟨d, divided, rounded⟩
  rcases exists_bound? (coefficient_lt_of_div (by decide) divided) with
    ⟨quotient, returned, cut, few⟩
  have notZero : ¬ b.value.isZero := fun zero => nonzero (isZero_iff.mp zero)
  have done : checkedDiv a b = .ok (some quotient) := by
    unfold checkedDiv settle
    rw [if_neg notZero, divided, ← returned]
  refine ⟨quotient, done, ?_⟩
  intro inRange
  constructor
  · intro exact
    rw [← exact]
    apply representable_value few
    exact le_trans (by decide) quotient.bounded.2
  · intro fits
    rw [cut, rounded.eq_of_representable fits, inRange.cutAt_eq]

/-- The greatest amount that a text spells. -/
def greatestSpelled : Amount := ⟨⟨false, 79228162514264337593543950335, -7⟩, by decide⟩

def oneUnit : Amount := ⟨⟨false, 10000000, -7⟩, ⟨by decide, by decide⟩⟩

/-- The greatest amount divided by one has 29 digits; what is returned is something else. -/
theorem checkedDiv_eq_iff_representable_byOne :
    Made greatestSpelled ∧ oneUnit.value.value ≠ 0 ∧
      InRange (greatestSpelled.value.value / oneUnit.value.value) ∧
      ∃ quotient, checkedDiv greatestSpelled oneUnit = .ok (some quotient) ∧
        quotient.value.value ≠ greatestSpelled.value.value / oneUnit.value.value ∧
        ¬ Representable quotientPrecision (greatestSpelled.value.value / oneUnit.value.value) := by
  have made : Made greatestSpelled := .inl ⟨"7922816251426433759354.3950335", rfl⟩
  have one : oneUnit.value.value = 1 := by
    norm_num [oneUnit, Decimal.value, Decimal.signed]
  have inRange : InRange (greatestSpelled.value.value / oneUnit.value.value) := by
    rw [one, div_one, inRange_iff]
    exact made.writtenOut.abs_value_le
  have divided : checkedDiv greatestSpelled oneUnit =
      .ok (some ⟨⟨false, 7922816251426433759354395034, -6⟩, by decide⟩) := rfl
  rcases checkedDiv_eq_iff_representable greatestSpelled oneUnit made (by rw [one]; norm_num) with
    ⟨quotient, returned, exactIff⟩
  have differs : quotient.value.value ≠ greatestSpelled.value.value / oneUnit.value.value := by
    rw [divided, Except.ok.injEq, Option.some.injEq] at returned
    rw [← returned, one]
    norm_num [greatestSpelled, Decimal.value, Decimal.signed]
  refine ⟨made, by rw [one]; norm_num, inRange, quotient, returned, differs, ?_⟩
  intro fits
  exact differs ((exactIff inRange).mpr fits)

end LedgerWire.Amount
