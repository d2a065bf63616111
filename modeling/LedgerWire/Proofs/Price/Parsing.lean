import LedgerWire.Proofs.Decimal.Text
import LedgerWire.Proofs.Price.Expansion

/-!
Contract: a price text says exactly which price it is, if there is one. The text may have more
digits than the expansion works with.

Owns:
- the price that a text is read as, if its value is a fraction with both parts in range.

Does not own: what becomes of all other texts.
-/

namespace LedgerWire.Price

open Decimal Wire

theorem fits_of_lt {n : Nat} (small : n < 2147483647) : Integer.int32.Fits n := by
  unfold Integer.Fits
  change -2147483648 ≤ (n : Int) ∧ (n : Int) ≤ 2147483647
  omega

theorem ofConvergent_of_isFraction (text : String) {convergent : Convergent} {n d : Nat}
    (isFraction : convergent.IsFraction (n, d)) (nPositive : 0 < n) (nSmall : n < 2147483647)
    (dPositive : 0 < d) (dSmall : d < 2147483647) :
    ∃ price, ofConvergent text convergent = .ok price ∧ price.numerator = n ∧
      price.denominator = d := by
  have numeratorNonzero : convergent.numerator.isZero = false := by
    rw [isZero_eq_false_iff, isFraction.1]
    exact_mod_cast nPositive.ne'
  have denominatorNonzero : convergent.denominator.isZero = false := by
    rw [isZero_eq_false_iff, isFraction.2]
    exact_mod_cast dPositive.ne'
  have numerator : convergent.numerator.toInt = n :=
    toInt_eq_of_value (by exact_mod_cast isFraction.1)
  have denominator : convergent.denominator.toInt = d :=
    toInt_eq_of_value (by exact_mod_cast isFraction.2)
  refine ⟨⟨n, d, fits_of_lt nSmall, fits_of_lt dSmall⟩, ?_, rfl, rfl⟩
  unfold ofConvergent make
  rw [numeratorNonzero, denominatorNonzero, numerator, denominator]
  simp [fits_of_lt nSmall, fits_of_lt dSmall]

theorem nonempty_of_read {text : String} {number : Decimal} (read : parse? text = some number) :
    text.isEmpty = false := by
  by_contra empty
  rw [Bool.not_eq_false, String.isEmpty_iff] at empty
  rw [empty, show parse? "" = none by decide] at read
  cases read

theorem parse_of_approximate {text : String} {number : Decimal} {convergent : Convergent}
    (read : parse? text = some number) (found : approximate number = .ok convergent) :
    parse text = ofConvergent text convergent := by
  unfold parse
  simp only [nonempty_of_read read, read, found, Bool.false_eq_true, if_false]

/-- A decimal text is read as the fraction that its value is in lowest terms, whenever both parts of
that are below the greatest 32-bit number. -/
theorem parse_literal (literal : Literal) (n d : Nat) (nPositive : 1 ≤ n) (nSmall : n < 2 ^ 31 - 1)
    (dPositive : 1 ≤ d) (dSmall : d < 2 ^ 31 - 1) (lowestTerms : n.Coprime d)
    (value : literal.value = n / d) :
    ∃ price, parse literal.text = .ok price ∧ price.numerator = n ∧ price.denominator = d := by
  obtain ⟨number, read, numberValue⟩ := parse?_text literal
  obtain ⟨convergent, expanded, isFraction⟩ :=
    approximate_of_value nSmall dSmall dPositive lowestTerms (numberValue.trans value)
  rw [parse_of_approximate read expanded]
  exact ofConvergent_of_isFraction literal.text isFraction nPositive nSmall dPositive dSmall

/-- Thirty digits after the point, two more than the expansion works with: one and a part in 2³⁰. -/
theorem parse_literal_thirtyDigits :
    ∃ literal : Literal, literal.text = "1.000000000931322574615478515625" ∧
      literal.value = (1073741825 : Nat) / (1073741824 : Nat) ∧
      ∃ price, parse literal.text = .ok price ∧ price.numerator = (1073741825 : Nat) ∧
        price.denominator = (1073741824 : Nat) := by
  let literal : Literal :=
    { sign := none
      whole := ['1']
      fraction :=
        some (List.replicate 9 '0' ++ ['9', '3', '1', '3', '2', '2', '5', '7', '4', '6', '1',
        '5', '4', '7', '8', '5', '1', '5', '6', '2', '5'])
      newline := false
      wholeDigits := by decide +kernel
      fractionDigits := by decide +kernel
      someDigit := by simp }
  have whole : Literal.number literal.whole = 1 := by decide +kernel
  have fraction : Literal.number (literal.fraction.getD []) = 931322574615478515625 := by
    decide +kernel
  have value : literal.value = (1073741825 : Nat) / (1073741824 : Nat) := by
    unfold Literal.value
    rw [whole, fraction]
    change 1 * (((1 : Nat) : ℚ) + ((931322574615478515625 : Nat) : ℚ) / 10 ^ 30) = _
    norm_num
  refine ⟨literal, by decide +kernel, value, ?_⟩
  exact parse_literal literal 1073741825 1073741824 (by decide) (by decide) (by decide) (by decide)
    (by decide +kernel)
    value

end LedgerWire.Price
