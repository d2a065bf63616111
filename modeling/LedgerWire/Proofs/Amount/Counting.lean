import LedgerWire.Proofs.Amount.Exact
import LedgerWire.Proofs.Decimal.Text
import LedgerWire.Proofs.Outcome

/-!
Contract: an amount's text is counted in stroops without any rounding. It has at most seven digits
after the point, so what it says is a whole number of stroops, and the count is that number if it
has 64 bits; every other text is refused, and a count comes back from the amount made of it.

Owns:
- the amount that a decimal text is read as, and its count;
- which decimal texts have a count.

Does not own: texts that are no decimals.
-/

namespace LedgerWire

open Decimal Wire

/-- The number of digits after the point. -/
def Decimal.Literal.places (literal : Literal) : Nat := (literal.fraction.getD []).length

namespace Amount

variable {literal : Literal}

/-- The number that a text is read as. -/
def numberOf (literal : Literal) : Decimal :=
  ⟨literal.sign == some true, Literal.number (literal.whole ++ literal.fraction.getD []),
    -literal.places⟩

theorem parse?_literal (literal : Literal) : parse? literal.text = some (numberOf literal) :=
    parse?_text_eq literal

theorem value_numberOf (literal : Literal) : (numberOf literal).value = literal.value := by
  rcases parse?_text literal with ⟨number, read, value⟩
  rw [parse?_literal, Option.some.injEq] at read
  rw [read, value]

theorem scale_numberOf (literal : Literal) : (numberOf literal).scale = literal.places := by
  show (-(-(literal.places : Int))).toNat = literal.places
  omega

/-! ### Counts -/

theorem value_mul_tens {amount : Amount} (seven : amount.value.exponent = -stroopsScale) :
    amount.value.value * 10 ^ stroopsScale = amount.value.signed := by
  unfold Decimal.value
  rw [seven, mul_assoc, tens_neg_mul, mul_one]

theorem toStroops_eq_ok_iff {amount : Amount} (seven : amount.value.exponent = -stroopsScale)
    {stroops : Stroops} :
    amount.toStroops = .ok stroops ↔
      (stroops.value : ℚ) = amount.value.value * 10 ^ stroopsScale := by
  have scale : ¬ amount.scale ≠ stroopsScale := by
    show ¬ (-amount.value.exponent).toNat ≠ 7
    rw [seven]
    decide
  unfold toStroops Stroops.ofInt?
  rw [if_neg scale, value_mul_tens seven]
  by_cases fits : Integer.int64.Fits amount.value.signed
  · rw [dif_pos fits]
    simp only [Except.ok.injEq]
    constructor
    · rintro rfl
      rfl
    · intro same
      have same : stroops.value = amount.value.signed := by exact_mod_cast same
      cases stroops
      simp_all
  · rw [dif_neg fits]
    simp only [reduceCtorEq, false_iff]
    intro same
    have same : stroops.value = amount.value.signed := by exact_mod_cast same
    exact fits (same ▸ stroops.inRange)

theorem toStroops_ofStroops (stroops : Stroops) : (ofStroops stroops).toStroops = .ok stroops := by
  rw [toStroops_eq_ok_iff rfl]
  have signed : (ofStroops stroops).value.signed = stroops.value := by
    unfold ofStroops Decimal.signed
    by_cases below : stroops.value < 0
    · simp only [below, decide_true, if_true]
      omega
    · simp only [below, decide_false, Bool.false_eq_true, if_false]
      omega
  rw [value_mul_tens rfl, signed]

/-! ### Texts -/

theorem parse_of_long (long : stroopsScale < literal.places) :
    parse literal.text =
      .error (Failure.withDetail .invalidAmountScale "input" (.text literal.text)) := by
  unfold parse
  rw [parse?_literal]
  exact if_pos (by rwa [scale_numberOf])

/-- The amount of a text is its number with seven digits after the point, if that is in range; then
it has few enough digits to be worked with. -/
theorem parse_eq_ok_iff {amount : Amount} :
    parse literal.text = .ok amount ↔
      literal.places ≤ stroopsScale ∧
      amount.value = (numberOf literal).truncateTo stroopsScale := by
  by_cases long : stroopsScale < literal.places
  · rw [parse_of_long long]
    simp only [reduceCtorEq, false_iff, not_and]
    intro short
    omega
  · have short : ¬ stroopsScale < (numberOf literal).scale := by rwa [scale_numberOf]
    unfold parse pad
    rw [parse?_literal]
    simp only [if_neg short]
    constructor
    · intro read
      refine ⟨not_lt.mp long, ?_⟩
      by_cases few : digitCount ((numberOf literal).truncateTo stroopsScale).coefficient ≤
        exactPrecision
      · simp only [if_pos few] at read
        split_ifs at read
        cases read
        rfl
      · simp only [if_neg few] at read
        cases read
    · rintro ⟨-, same⟩
      have bounded : Bounded ((numberOf literal).truncateTo stroopsScale) := same ▸ amount.bounded
      have few : digitCount ((numberOf literal).truncateTo stroopsScale).coefficient ≤
          exactPrecision := by
        rw [digitCount_le_iff (by decide)]
        apply bounded.1.trans_lt
        norm_num [maxCoefficient, exactPrecision]
      simp only [if_pos few, dif_pos bounded, Except.ok.injEq]
      cases amount
      simp_all

theorem value_of_short (short : literal.places ≤ stroopsScale) :
    ((numberOf literal).truncateTo stroopsScale).value = literal.value := by
  have fine : -(stroopsScale : Int) ≤ (numberOf literal).exponent := by
    show -(stroopsScale : Int) ≤ -literal.places
    omega
  rw [value_truncateTo, ← value_numberOf]
  exact cutAt_value fine

theorem toStroops_of_parse {amount : Amount} (read : parse literal.text = .ok amount)
    {stroops : Stroops} :
    amount.toStroops = .ok stroops ↔ (stroops.value : ℚ) = literal.value * 10 ^ stroopsScale := by
  rcases parse_eq_ok_iff.mp read with ⟨short, same⟩
  have exponent : amount.value.exponent = -stroopsScale := by
    rw [same]
    exact truncateTo_exponent _ _
  rw [toStroops_eq_ok_iff exponent, same, value_of_short short]

/-- A number of seven digits after the point that is a count of stroops is an amount. -/
theorem exists_parse (short : literal.places ≤ stroopsScale) {stroops : Stroops}
    (count : (stroops.value : ℚ) = literal.value * 10 ^ stroopsScale) :
    ∃ amount, parse literal.text = .ok amount := by
  have exponent := truncateTo_exponent stroopsScale (numberOf literal)
  have nonpositive : ((numberOf literal).truncateTo stroopsScale).exponent ≤ 0 := by
    rw [exponent]
    decide
  have magnitude := abs_value_mul_tens nonpositive
  have scale : ((numberOf literal).truncateTo stroopsScale).scale = stroopsScale := by
    unfold Decimal.scale
    rw [exponent]
    decide
  rw [scale, value_of_short short,
    ← abs_of_pos (show (0 : ℚ) < 10 ^ stroopsScale by positivity), ← abs_mul, ← count] at magnitude
  have coefficient : |stroops.value| =
      ((numberOf literal).truncateTo stroopsScale).coefficient := by
    exact_mod_cast magnitude
  have bounded : Bounded ((numberOf literal).truncateTo stroopsScale) := by
    have inRange := stroops.inRange
    simp only [Integer.Fits, Integer.least, Integer.greatest] at inRange
    refine ⟨?_, by rw [exponent]; decide⟩
    rw [← Int.natCast_natAbs] at coefficient
    show _ ≤ 2 ^ 96 - 1
    omega
  exact ⟨⟨_, bounded⟩, parse_eq_ok_iff.mpr ⟨short, rfl⟩⟩

end Amount

namespace StroopsSource

theorem blame_eq_ok_iff {given : String} {result : Except Failure Stroops} {stroops : Stroops} :
    blame given result = .ok stroops ↔ result = .ok stroops := by
  unfold blame
  split
  · split_ifs
    · simp
    · rfl
  · rfl

theorem toStroops_text_eq_ok_iff {literal : Literal} {stroops : Stroops} :
    (text literal.text).toStroops = .ok stroops ↔
      literal.places ≤ Amount.stroopsScale ∧
        (stroops.value : ℚ) = literal.value * 10 ^ Amount.stroopsScale := by
  show blame literal.text (Amount.parse literal.text >>= Amount.toStroops) = .ok stroops ↔ _
  rw [blame_eq_ok_iff, Outcome.bind_eq_ok_iff]
  constructor
  · rintro ⟨amount, read, counted⟩
    exact ⟨(Amount.parse_eq_ok_iff.mp read).1, (Amount.toStroops_of_parse read).mp counted⟩
  · rintro ⟨short, count⟩
    rcases Amount.exists_parse short count with ⟨amount, read⟩
    exact ⟨amount, read, (Amount.toStroops_of_parse read).mpr count⟩

theorem exists_count {literal : Literal} (short : literal.places ≤ Amount.stroopsScale) :
    ∃ count : Int, (count : ℚ) = literal.value * 10 ^ Amount.stroopsScale := by
  have fine : -(Amount.stroopsScale : Int) ≤ (Amount.numberOf literal).exponent := by
    show -(Amount.stroopsScale : Int) ≤ -literal.places
    omega
  refine ⟨(Amount.numberOf literal).signedAt (-Amount.stroopsScale), ?_⟩
  rw [← Amount.value_numberOf, Decimal.value_eq_signedAt _ fine, mul_assoc, tens_neg_mul, mul_one]

/-- A decimal text is counted as ten million times what it says if it has at most seven digits after
the point and the count has 64 bits, and is refused otherwise, whatever the digits after the seventh
are; and the count of the amount made of a count is this count. -/
theorem toStroops_literal
    (literal : Literal) :
    (if literal.places ≤ 7 ∧ -2 ^ 63 ≤ literal.value * 10 ^ 7 ∧
        literal.value * 10 ^ 7 ≤ 2 ^ 63 - 1 then
      ∃ stroops, (text literal.text).toStroops = .ok stroops ∧
      (stroops.value : ℚ) = literal.value * 10 ^ 7
    else
      ∃ failure, (text literal.text).toStroops = .error failure) ∧
    (7 < literal.places →
      Amount.parse literal.text =
        .error (Failure.withDetail .invalidAmountScale "input" (.text literal.text))) ∧
    ∀ stroops, (Amount.ofStroops stroops).toStroops = .ok stroops := by
  refine ⟨?_, Amount.parse_of_long, Amount.toStroops_ofStroops⟩
  split_ifs with countable
  · rcases countable with ⟨short, least, greatest⟩
    rcases exists_count short with ⟨count, value⟩
    change (count : ℚ) = literal.value * 10 ^ 7 at value
    rw [← value] at least greatest
    have fits : Integer.int64.Fits count := by
      constructor
      · exact_mod_cast least
      · exact_mod_cast greatest
    exact ⟨⟨count, fits⟩, toStroops_text_eq_ok_iff.mpr ⟨short, value⟩, value⟩
  · cases counted : (text literal.text).toStroops with
    | error failure => exact ⟨failure, rfl⟩
    | ok stroops =>
      rcases toStroops_text_eq_ok_iff.mp counted with ⟨short, value⟩
      have value : (stroops.value : ℚ) = literal.value * 10 ^ 7 := value
      have inRange := stroops.inRange
      simp only [Integer.Fits, Integer.least, Integer.greatest] at inRange
      rw [← value] at countable
      refine absurd ⟨short, ?_, ?_⟩ countable
      · exact_mod_cast inRange.1
      · exact_mod_cast inRange.2

end StroopsSource

end LedgerWire
