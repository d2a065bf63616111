import LedgerWire.Proofs.Amount.Counting
import LedgerWire.Proofs.Amount.Range
import LedgerWire.Proofs.Decimal.Spelling

/-!
Contract: the text of an amount that was made of a text or of stroops. From ten stroops on it has
seven digits after the point and is read as just this amount. Smaller amounts, zero among them, are
written with an exponent, which no text of an amount may have.

Owns:
- the form of seven places;
- which made amounts are written in it and read from it.

Does not own: amounts that come out of arithmetic.
-/

namespace LedgerWire.Amount

open Decimal

/-- A minus sign or none, one digit or more, a point and exactly seven digits. -/
def SevenPlaces (text : String) : Prop :=
  ∃ (negative : Bool) (whole fraction : List Char),
    text.toList = (if negative then ['-'] else []) ++ (whole ++ '.' :: fraction) ∧
      whole ≠ [] ∧ fraction.length = 7 ∧ ∀ c ∈ whole ++ fraction, c.isDigit = true

theorem exponentMark_not_mem {text : String} (sevenPlaces : SevenPlaces text) :
    'E' ∉ text.toList := by
  rcases sevenPlaces with ⟨negative, whole, fraction, parts, -, -, digits⟩
  have noDigit {c : Char} (member : c ∈ whole ++ fraction) : 'E' ≠ c := by
    rintro rfl
    exact absurd (digits _ member) (by decide)
  rw [parts, List.mem_append, List.mem_append, List.mem_cons, not_or, not_or, not_or]
  refine ⟨?_, ?_, by decide, ?_⟩
  · cases negative <;> decide
  · exact fun member => noDigit (List.mem_append_left fraction member) rfl
  · exact fun member => noDigit (List.mem_append_right whole member) rfl

/-! ### Amounts of seven digits after the point -/

variable {amount : Amount}

theorem Made.exponent (made : Made amount) : amount.value.exponent = -stroopsScale := by
  rcases made with ⟨text, parsed⟩ | ⟨stroops, rfl⟩
  · exact exponent_of_parse parsed
  · rfl

section SevenDigits

variable (seven : amount.value.exponent = -stroopsScale)
include seven

theorem scale_of_seven : amount.value.scale = 7 := by
  unfold Decimal.scale
  rw [seven]
  rfl

/-- All digits of an amount are written from ten stroops on. -/
theorem positional_iff : amount.value.Positional ↔ 1 / 10 ^ 6 ≤ |amount.value.value| := by
  have adjusted : amount.value.adjusted = digitCount amount.value.coefficient - 8 := by
    unfold adjusted
    rw [seven]
    show (-7 : Int) + digitCount amount.value.coefficient - 1 = _
    ring
  have magnitude : |amount.value.value| = amount.value.coefficient / 10 ^ 7 := by
    rw [abs_value, seven, zpow_neg, ← div_eq_mul_inv]
    rfl
  have few : digitCount amount.value.coefficient ≤ 1 ↔ amount.value.coefficient < 10 :=
    digitCount_le_iff le_rfl
  calc
    amount.value.Positional ↔ 10 ≤ amount.value.coefficient := by
      unfold Positional
      rw [adjusted, seven]
      show -((7 : Nat) : Int) ≤ 0 ∧ _ ↔ _
      omega
    _ ↔ 1 / 10 ^ 6 ≤ |amount.value.value| := by
      rw [magnitude, le_div_iff₀ (by norm_num)]
      norm_num

theorem sevenPlaces_of_positional (positional : amount.value.Positional) :
    SevenPlaces amount.toText := by
  have length := length_fractionDigits amount.value
  rw [scale_of_seven seven] at length
  have sign : Literal.signOf amount.value.spelling.sign =
      if amount.value.negative then ['-'] else [] := by
    show Literal.signOf (if amount.value.negative then some true else none) = _
    cases amount.value.negative <;> rfl
  have fraction : amount.value.spelling.fraction = some amount.value.fractionDigits := by
    show (if amount.value.fractionDigits.isEmpty then none else some amount.value.fractionDigits) =
      _
    rw [if_neg]
    intro empty
    rw [List.isEmpty_iff.mp empty] at length
    cases length
  refine ⟨amount.value.negative, amount.value.wholeDigits, amount.value.fractionDigits, ?_,
    wholeDigits_ne_nil amount.value, length, ?_⟩
  · unfold toText
    rw [toText_of_positional positional, Literal.text, String.toList_ofList, Literal.line,
      sign, fraction]
    exact List.append_nil _
  · intro c member
    rw [wholeDigits_append_fractionDigits] at member
    exact isDigit_of_mem_filledDigits amount.value member

/-- An amount that is written with all its digits is read from its text, since padding it to seven
digits after the point changes nothing. -/
theorem parse_toText_of_positional (positional : amount.value.Positional) :
    parse amount.toText = .ok amount := by
  have sameNumber : numberOf amount.value.spelling = amount.value := by
    have read := parse?_toText_of_positional positional
    rw [toText_of_positional positional, parse?_literal] at read
    exact Option.some.inj read
  have places : amount.value.spelling.places = stroopsScale := by
    rw [← scale_numberOf, sameNumber]
    exact scale_of_seven seven
  have padded : amount.value.truncateTo stroopsScale = amount.value := by
    unfold truncateTo coefficientAt
    rw [if_pos seven.ge, ← seven, Int.sub_self, Int.toNat_zero, pow_zero, Nat.mul_one]
  unfold toText
  rw [toText_of_positional positional, parse_eq_ok_iff, sameNumber, padded]
  exact ⟨places.le, rfl⟩

end SevenDigits

theorem parse_toText_of_not_positional (notPositional : ¬ amount.value.Positional) :
    ∃ fault, parse amount.toText = .error (.fault fault) ∧ fault.kind = .unparsedAmount := by
  unfold parse
  rw [toText, parse?_toText_of_not_positional notPositional]
  exact ⟨_, rfl, rfl⟩

/-- The text of an amount that was made has seven digits after the point and is read as this amount
if the amount is ten stroops or more; otherwise it does not have this form and is refused as
unparsed. -/
theorem parse_toText_of_made
    (made : Made amount) :
    if 1 / 10 ^ 6 ≤ |amount.value.value| then
      SevenPlaces amount.toText ∧ parse amount.toText = .ok amount
    else
      ¬ SevenPlaces amount.toText ∧
        ∃ fault, parse amount.toText = .error (.fault fault) ∧ fault.kind = .unparsedAmount := by
  have positional := positional_iff made.exponent
  split_ifs with large
  · exact ⟨sevenPlaces_of_positional made.exponent (positional.mpr large),
      parse_toText_of_positional made.exponent (positional.mpr large)⟩
  · have notPositional : ¬ amount.value.Positional := mt positional.mp large
    refine ⟨?_, parse_toText_of_not_positional notPositional⟩
    intro sevenPlaces
    exact exponentMark_not_mem sevenPlaces (exponentMark_mem_toText notPositional)

/-- Ten stroops that are owed read back from their text; nine stroops do not, and neither does a
zero that was read with a minus sign. -/
theorem parse_toText_of_made_tenStroops :
    Made (ofStroops ⟨-10, by decide⟩) ∧
      parse (ofStroops ⟨-10, by decide⟩).toText = .ok (ofStroops ⟨-10, by decide⟩) ∧
      ¬ SevenPlaces (ofStroops ⟨9, by decide⟩).toText ∧
      ∃ zero, parse "-0" = .ok zero ∧ ¬ SevenPlaces zero.toText := by
  have ten : Made (ofStroops ⟨-10, by decide⟩) := .inr ⟨_, rfl⟩
  have nine : Made (ofStroops ⟨9, by decide⟩) := .inr ⟨_, rfl⟩
  have tenLarge : (1 : ℚ) / 10 ^ 6 ≤ |(ofStroops ⟨-10, by decide⟩).value.value| := by
    norm_num [ofStroops, Decimal.value, Decimal.signed, stroopsScale]
  have nineSmall : ¬ (1 : ℚ) / 10 ^ 6 ≤ |(ofStroops ⟨9, by decide⟩).value.value| := by
    norm_num [ofStroops, Decimal.value, Decimal.signed, stroopsScale]
  have zeroSmall : ¬ (1 : ℚ) / 10 ^ 6 ≤ |(⟨true, 0, -7⟩ : Decimal).value| := by
    norm_num [Decimal.value, Decimal.signed]
  have tenReads := parse_toText_of_made ten
  have nineReads := parse_toText_of_made nine
  rw [if_pos tenLarge] at tenReads
  rw [if_neg nineSmall] at nineReads
  refine ⟨ten, tenReads.2, nineReads.1, ⟨⟨true, 0, -7⟩, by decide⟩, rfl, ?_⟩
  have zeroReads := parse_toText_of_made (.inl ⟨"-0", rfl⟩ : Made ⟨⟨true, 0, -7⟩, by decide⟩)
  rw [if_neg zeroSmall] at zeroReads
  exact zeroReads.1

end LedgerWire.Amount
