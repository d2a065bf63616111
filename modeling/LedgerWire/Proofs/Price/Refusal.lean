import LedgerWire.Proofs.Amount.Refusal
import LedgerWire.Proofs.Price.Bounds
import LedgerWire.Proofs.Price.Parsing

/-!
Contract: how the text of a price is refused. It is refused by the one documented fault, unless the
numerator that is found for it has more digits than numbers are shown with: then the message of that
fault cannot be made, and the failure to show the number comes out in its place. Only texts far
below zero have such numerators.

Owns:
- the texts of prices that fail in another way, and bounds on what they mean;
- all texts of amounts, counts of stroops and prices that do.

Does not own: which price a text is read as.
-/

namespace LedgerWire

open Decimal

namespace Price

/-! ### Numbers that are shown -/

theorem short_toInt_iff {d : Decimal} :
    Numeral.Short d.toInt ↔ |d.value| < 10 ^ Numeral.maxDigits := by
  unfold Numeral.Short
  rw [natAbs_toInt, Nat.floor_lt (abs_nonneg _), Nat.cast_pow, Nat.cast_ofNat]

theorem outOfRange_of_short {part : Int} (short : Numeral.Short part) :
    ∃ fault, outOfRange part = .fault fault ∧ fault.kind = .xdr := by
  unfold outOfRange Numeral.ofInt
  rw [if_pos short]
  exact ⟨_, rfl, rfl⟩

theorem outOfRange_of_not_short {part : Int} (long : ¬ Numeral.Short part) :
    outOfRange part = .improperNumeral := by
  unfold outOfRange Numeral.ofInt
  rw [if_neg long]

theorem failsOnlyBy_make {numerator denominator : Int} (numeratorShort : Numeral.Short numerator)
    (denominatorShort : Numeral.Short denominator) :
    FailsOnlyBy [.xdr] (make numerator denominator) := by
  unfold make
  split_ifs
  · exact failsOnlyBy_ok _
  · rcases outOfRange_of_short denominatorShort with ⟨fault, shown, kind⟩
    rw [shown]
    exact failsOnlyBy_fault (List.mem_singleton.mpr kind)
  · rcases outOfRange_of_short numeratorShort with ⟨fault, shown, kind⟩
    rw [shown]
    exact failsOnlyBy_fault (List.mem_singleton.mpr kind)

theorem tenDigits_le_maxDigits : 10 ^ 10 ≤ 10 ^ Numeral.maxDigits :=
  Nat.pow_le_pow_right (by norm_num) (by decide)

theorem partBound_lt_maxDigits : (2147483647 : ℚ) < 10 ^ Numeral.maxDigits := by
  have power : (10 : ℚ) ^ 10 ≤ 10 ^ Numeral.maxDigits := by exact_mod_cast tenDigits_le_maxDigits
  norm_num at power
  linarith

theorem short_of_fits {part : Int} (fits : Wire.Integer.int32.Fits part) : Numeral.Short part := by
  have size : part.natAbs < 10 ^ 10 := by
    change -2147483648 ≤ part ∧ part ≤ 2147483647 at fits
    omega
  exact size.trans_le tenDigits_le_maxDigits

theorem make_of_not_short {numerator : Int} (long : ¬ Numeral.Short numerator) (denominator : Int) :
    make numerator denominator = .error .improperNumeral := by
  unfold make
  rw [dif_neg (mt short_of_fits long), outOfRange_of_not_short long]

/-! ### The convergent of a text -/

variable {digits part : Nat} {text : String} {convergent : Convergent}

theorem failsOnlyBy_ofConvergent (numeratorShort : Numeral.Short convergent.numerator.toInt)
    (denominatorShort : Numeral.Short convergent.denominator.toInt) :
    FailsOnlyBy [.unparsedPrice] (ofConvergent text convergent) := by
  have documented := failsOnlyBy_make numeratorShort denominatorShort
  unfold ofConvergent
  split_ifs
  · exact failsOnlyBy_fault List.mem_cons_self
  · cases made : make convergent.numerator.toInt convergent.denominator.toInt with
    | ok price => exact failsOnlyBy_ok price
    | error failure =>
      rcases documented failure made with ⟨fault, rfl, -⟩
      exact failsOnlyBy_fault List.mem_cons_self

theorem short_denominator (within : convergent.Within digits part) :
    Numeral.Short convergent.denominator.toInt := by
  rw [short_toInt_iff, within.denominator, Nat.abs_cast]
  have small : (part : ℚ) < 2147483647 := by exact_mod_cast within.part_lt
  exact small.trans partBound_lt_maxDigits

theorem short_numerator_iff (within : convergent.Within digits part) :
    Numeral.Short convergent.numerator.toInt ↔
      -10 ^ Numeral.maxDigits < convergent.numerator.value := by
  rw [short_toInt_iff, abs_lt]
  exact and_iff_left (within.numerator_lt.trans partBound_lt_maxDigits)

/-- Whether the numerator that is found for a text is below zero and has more than 4300 digits. -/
def Unshowable (text : String) : Prop :=
  ∃ number convergent, parse? text = some number ∧ approximate number = .ok convergent ∧
    convergent.numerator.value ≤ -10 ^ Numeral.maxDigits

theorem exists_tens_le (x : ℚ) : ∃ digits : Nat, -(10 : ℚ) ^ digits ≤ x := by
  obtain ⟨digits, large⟩ := pow_unbounded_of_one_lt (-x) (show (1 : ℚ) < 10 by norm_num)
  exact ⟨digits, by linarith⟩

theorem parse_of_unshowable (unshowable : Unshowable text) :
    parse text = .error .improperNumeral := by
  rcases unshowable with ⟨number, convergent, read, found, low⟩
  obtain ⟨digits, above⟩ := exists_tens_le number.value
  rcases approximate_within above found with ⟨part, within, formal⟩
  have negative : convergent.numerator.value < 0 := by
    linarith [partBound_lt_maxDigits]
  have partNonzero : part ≠ 0 := by
    intro zero
    have one : convergent.numerator.value = 1 := by
      rw [formal zero]
      simp [formalConvergents]
    linarith
  have numeratorNonzero := isZero_eq_false_iff.mpr negative.ne
  have denominatorNonzero : convergent.denominator.isZero = false := by
    rw [isZero_eq_false_iff, within.denominator]
    exact_mod_cast partNonzero
  have long := mt (short_numerator_iff within).mp (not_lt.mpr low)
  unfold parse
  simp only [nonempty_of_read read, read, found, Bool.false_eq_true, if_false]
  unfold ofConvergent
  rw [numeratorNonzero, denominatorNonzero, make_of_not_short long]
  rfl

theorem failsOnlyBy_parse (showable : ¬ Unshowable text) :
    FailsOnlyBy [.unparsedPrice] (parse text) := by
  unfold parse
  split_ifs
  · exact failsOnlyBy_fault List.mem_cons_self
  cases read : parse? text with
  | none => exact failsOnlyBy_fault List.mem_cons_self
  | some number =>
    cases found : approximate number with
    | error condition =>
      simp only [found]
      exact failsOnlyBy_fault List.mem_cons_self
    | ok convergent =>
      simp only [found]
      obtain ⟨digits, above⟩ := exists_tens_le number.value
      rcases approximate_within above found with ⟨part, within, -⟩
      have notLow := not_le.mp fun low => showable ⟨number, convergent, read, found, low⟩
      exact failsOnlyBy_ofConvergent ((short_numerator_iff within).mpr notLow)
        (short_denominator within)

theorem failsOnlyBy_parse_iff : FailsOnlyBy [.unparsedPrice] (parse text) ↔ ¬ Unshowable text := by
  constructor
  · intro documented unshowable
    rw [parse_of_unshowable unshowable] at documented
    exact not_failsOnlyBy (fun _ => Failure.noConfusion) documented
  · exact failsOnlyBy_parse

/-! ### Texts by their value -/

variable {literal : Literal}

theorem lt_lowest (digits : Nat) {part : Nat} (small : part < 10 ^ 10) :
    -(10 : ℚ) ^ (digits + 10) < lowest digits part := by
  unfold lowest
  rw [neg_lt_neg_iff, pow_add]
  exact mul_lt_mul_of_pos_left (by exact_mod_cast small) (by positivity)

/-- What is found for a number has a denominator of at most ten digits, and so hardly more digits
than the number. -/
theorem not_unshowable_of_le (above : -10 ^ 4290 ≤ literal.value) : ¬ Unshowable literal.text := by
  rintro ⟨number, convergent, read, found, low⟩
  obtain ⟨_, readSame, value⟩ := parse?_text literal
  cases Option.some.inj (readSame.symm.trans read)
  rw [← value] at above
  rcases approximate_within above found with ⟨part, within, -⟩
  have partLt := within.part_lt
  have notLow := lt_lowest 4290 (show part < 10 ^ 10 by omega)
  exact absurd (within.lowest_le.trans low) (not_le.mpr notLow)

theorem unshowable_of_whole (whole : literal.value = ⌊literal.value⌋)
    (low : literal.value ≤ -10 ^ 4300)
    (bounded : -10 ^ greatestExponent ≤ literal.value) : Unshowable literal.text := by
  obtain ⟨number, read, value⟩ := parse?_text literal
  rw [← value] at whole low bounded
  rcases approximate_of_whole whole low bounded with ⟨convergent, found, numeratorLow⟩
  exact ⟨number, convergent, read, found, numeratorLow⟩

end Price

/-! ### All texts -/

/-- Amounts, counts of stroops and prices are refused by their documented faults alone, unless the
text is too long. For amounts and counts that is a matter of the digits before the point. A price
text is not too long if its value is above zero or has up to 4290 digits before the point, and is
too long if its value is a whole number below zero of more than 4300 digits, up to where decimals
end. -/
theorem failsOnlyBy_documented_iff (text : String) :
    (FailsOnlyBy [.unparsedAmount, .invalidAmountScale] (Amount.parse text) ↔
      ¬ Amount.TooLong text) ∧
      (FailsOnlyBy [.invalidStroops] (StroopsSource.text text).toStroops ↔ ¬ Amount.TooLong text) ∧
      (FailsOnlyBy [.unparsedPrice] (Price.parse text) ↔ ¬ Price.Unshowable text) ∧
      ∀ literal : Literal, literal.text = text →
        (-10 ^ 4290 ≤ literal.value → ¬ Price.Unshowable text) ∧
        (literal.value = ⌊literal.value⌋ → literal.value ≤ -10 ^ 4300 →
          -10 ^ greatestExponent ≤ literal.value →
          Price.Unshowable text) := by
  refine ⟨Amount.failsOnlyBy_parse_iff, StroopsSource.failsOnlyBy_toStroops_iff,
    Price.failsOnlyBy_parse_iff, ?_⟩
  rintro literal rfl
  exact ⟨Price.not_unshowable_of_le, Price.unshowable_of_whole⟩

/-- A one and zeros behind it, and a sign in front if the number is below zero. -/
def roundLiteral (negative : Bool) (zeros : Nat) : Literal where
  sign := if negative then some true else none
  whole := '1' :: List.replicate zeros '0'
  fraction := none
  newline := false
  wholeDigits := by
    rw [List.all_cons, all_isDigit_zeros, Bool.and_true]
    decide
  fractionDigits := rfl
  someDigit := by simp

theorem number_one_zeros (zeros : Nat) :
    Literal.number ('1' :: List.replicate zeros '0') = 10 ^ zeros := by
  rw [← List.singleton_append, number_append _ (all_isDigit_zeros zeros), number_zeros,
    List.length_replicate, show Literal.number ['1'] = 1 by decide, one_mul, add_zero]

theorem value_roundLiteral (negative : Bool) (zeros : Nat) :
    (roundLiteral negative zeros).value = signFactor negative * 10 ^ zeros := by
  have whole : (Literal.number (roundLiteral negative zeros).whole : ℚ) = 10 ^ zeros := by
    exact_mod_cast number_one_zeros zeros
  have fraction : Literal.number ((roundLiteral negative zeros).fraction.getD []) = 0 := rfl
  unfold Literal.value
  rw [whole, fraction, Nat.cast_zero, zero_div, add_zero]
  cases negative <;> rfl

/-- A one and 73 zeros are too long for an amount. -/
theorem tooLong_roundLiteral {zeros : Nat} (many : 73 ≤ zeros) :
    Amount.TooLong (roundLiteral false zeros).text := by
  refine ⟨_, rfl, Nat.zero_le _, ?_⟩
  rw [value_roundLiteral, signFactor, if_neg (by decide), one_mul, abs_of_pos (by positivity)]
  exact pow_le_pow_right₀ (by norm_num) many

/-- A minus sign, a one and 4300 zeros are too long for a price, up to where decimals end. -/
theorem unshowable_roundLiteral {zeros : Nat} (many : 4300 ≤ zeros)
    (bounded : zeros ≤ greatestExponent) :
    Price.Unshowable (roundLiteral true zeros).text := by
  have value : (roundLiteral true zeros).value = -10 ^ zeros := by
    rw [value_roundLiteral, signFactor, if_pos rfl, neg_one_mul]
  apply Price.unshowable_of_whole
  · rw [value, show -(10 : ℚ) ^ zeros = ((-10 ^ zeros : Int) : ℚ) by push_cast; rfl,
      Int.floor_intCast]
  · rw [value, neg_le_neg_iff]
    exact pow_le_pow_right₀ (by norm_num) many
  · rw [value, neg_le_neg_iff, ← zpow_natCast]
    exact tens_le_tens bounded

/-- Such texts are refused in no documented way. -/
theorem failsOnlyBy_documented_iff_zeros :
    ¬ FailsOnlyBy [.unparsedAmount, .invalidAmountScale]
      (Amount.parse (roundLiteral false 73).text) ∧
      ¬ FailsOnlyBy [.invalidStroops] (StroopsSource.text (roundLiteral false 73).text).toStroops ∧
      ¬ FailsOnlyBy [.unparsedPrice] (Price.parse (roundLiteral true 4300).text) := by
  have amounts := failsOnlyBy_documented_iff (roundLiteral false 73).text
  have prices := failsOnlyBy_documented_iff (roundLiteral true 4300).text
  have tooLong := tooLong_roundLiteral le_rfl
  have unshowable := unshowable_roundLiteral le_rfl (by decide)
  exact ⟨fun documented => amounts.1.mp documented tooLong, fun documented =>
    amounts.2.1.mp documented tooLong, fun documented => prices.2.2.1.mp documented unshowable⟩

end LedgerWire
