import Mathlib.Data.List.TakeWhile
import LedgerWire.Decimal.Text
import LedgerWire.Proofs.Decimal.Arithmetic

/-!
Contract: which number a decimal text means. The digits before the point count as a whole number and
those after it as a fraction, of whatever script they are; zeros in front and at the end change
nothing.

Owns:
- `Decimal.Literal`, the form of a decimal text, and its value;
- `parse?` reads the texts of that form and no others, and with that value.

Does not own: how decimals are written.
-/

namespace LedgerWire.Decimal

/-- Whether a character is a decimal digit of some script. -/
def isDigit (c : Char) : Bool := (Text.decimalDigit? c).isSome

theorem isSome_decimalDigit? (c : Char) : (Text.decimalDigit? c).isSome = isDigit c := rfl

/-- The parts of a decimal text: a sign or none, digits, a point and further digits or neither, and
a line feed or none. There is a digit before the point or after it. -/
structure Literal where
  sign : Option Bool
  whole : List Char
  fraction : Option (List Char)
  newline : Bool
  wholeDigits : whole.all isDigit = true
  fractionDigits : (fraction.getD []).all isDigit = true
  someDigit : whole ++ fraction.getD [] ≠ []

namespace Literal

def signOf : Option Bool → List Char
  | none => []
  | some false => ['+']
  | some true => ['-']

def fractionOf : Option (List Char) → List Char
  | none => []
  | some digits => '.' :: digits

/-- The text without the line feed. -/
def line (literal : Literal) : List Char :=
  signOf literal.sign ++ (literal.whole ++ fractionOf literal.fraction)

def text (literal : Literal) : String :=
  String.ofList (literal.line ++ if literal.newline then ['\n'] else [])

/-- The number whose digits are listed. -/
def number (digits : List Char) : Nat := ofDigits (digits.filterMap Text.decimalDigit?)

def value (literal : Literal) : ℚ :=
  signFactor (literal.sign == some true) *
    (number literal.whole +
      number (literal.fraction.getD []) / 10 ^ (literal.fraction.getD []).length)

end Literal

/-! ### Reading -/

theorem dropFinalNewline_append {chars : List Char} (newline : Bool) (inside : '\n' ∉ chars) :
    dropFinalNewline (chars ++ if newline then ['\n'] else []) = chars := by
  unfold dropFinalNewline
  cases newline with
  | true => simp
  | false =>
    have last : chars.getLast? ≠ some '\n' := fun found => inside (List.mem_of_getLast? found)
    simp [last]

theorem splitSign_of_unsigned {chars : List Char} (plus : '+' ∉ chars) (minus : '-' ∉ chars) :
    splitSign chars = (false, chars) := by
  unfold splitSign
  split
  · simp at plus
  · simp at minus
  · rfl

variable (literal : Literal)

theorem Literal.mem_unsigned {c : Char}
    (found : c ∈ literal.whole ++ Literal.fractionOf literal.fraction) :
    isDigit c = true ∨ c = '.' := by
  unfold fractionOf at found
  rcases List.mem_append.mp found with whole | fraction
  · exact .inl (List.all_eq_true.mp literal.wholeDigits c whole)
  · have digits := literal.fractionDigits
    cases parts : literal.fraction with
    | none => simp [parts] at fraction
    | some chars =>
      rw [parts] at fraction digits
      rcases List.mem_cons.mp fraction with point | digit
      · exact .inr point
      · exact .inl (List.all_eq_true.mp digits c digit)

theorem Literal.not_mem_unsigned {c : Char} (noDigit : ¬ isDigit c = true) (noPoint : c ≠ '.') :
    c ∉ literal.whole ++ Literal.fractionOf literal.fraction := by
  intro found
  rcases literal.mem_unsigned found with digit | point
  · exact noDigit digit
  · exact noPoint point

theorem splitSign_line :
    splitSign literal.line =
      (literal.sign == some true, literal.whole ++ Literal.fractionOf literal.fraction) := by
  unfold Literal.line
  match literal.sign with
  | none =>
    exact splitSign_of_unsigned (literal.not_mem_unsigned (by decide) (by decide))
      (literal.not_mem_unsigned (by decide) (by decide))
  | some false => rfl
  | some true => rfl

theorem newline_not_mem_line : '\n' ∉ literal.line := by
  unfold Literal.line
  rw [List.mem_append, not_or]
  refine ⟨?_, literal.not_mem_unsigned (by decide) (by decide)⟩
  match literal.sign with
  | none => decide
  | some false => decide
  | some true => decide

theorem takeWhile_unsigned :
    (literal.whole ++ Literal.fractionOf literal.fraction).takeWhile isDigit =
      literal.whole := by
  have rest : (Literal.fractionOf literal.fraction).takeWhile isDigit = [] := by
    unfold Literal.fractionOf
    cases literal.fraction with
    | none => rfl
    | some digits => exact List.takeWhile_cons_of_neg (show ¬ isDigit '.' = true by decide)
  rw [List.takeWhile_append_of_pos (List.all_eq_true.mp literal.wholeDigits), rest, List.append_nil]

theorem number_append (front : List Char) {back : List Char} (digits : back.all isDigit = true) :
    Literal.number (front ++ back) =
      Literal.number front * 10 ^ back.length + Literal.number back := by
  have length : (back.filterMap Text.decimalDigit?).length = back.length := by
    rw [List.length_filterMap_eq_countP, List.countP_eq_length]
    exact List.all_eq_true.mp digits
  unfold Literal.number
  rw [List.filterMap_append, ofDigits_append, length]

theorem all_isDigit_zeros (zeros : Nat) : (List.replicate zeros '0').all isDigit = true := by
  rw [List.all_replicate]
  simp [show isDigit '0' = true by decide]

theorem number_zeros (zeros : Nat) : Literal.number (List.replicate zeros '0') = 0 := by
  induction zeros with
  | zero => decide
  | succ zeros inductionHypothesis =>
    rw [List.replicate_succ', number_append _ (show ['0'].all isDigit = true by decide),
      inductionHypothesis, show Literal.number ['0'] = 0 by decide, zero_mul]

/-- Every decimal text is read, as the sign, the digits together and the place of the point. -/
theorem parse?_text_eq :
    parse? literal.text = some ⟨literal.sign == some true,
      Literal.number (literal.whole ++ literal.fraction.getD []),
      -(literal.fraction.getD []).length⟩ := by
  have body : splitSign (dropFinalNewline literal.text.toList) =
      (literal.sign == some true, literal.whole ++ Literal.fractionOf literal.fraction) := by
    unfold Literal.text
    rw [String.toList_ofList, dropFinalNewline_append _ (newline_not_mem_line literal),
      splitSign_line]
  have digits := literal.fractionDigits
  have nonempty : (literal.whole.isEmpty && (literal.fraction.getD []).isEmpty) = false := by
    simpa [List.isEmpty_iff] using literal.someDigit
  unfold parse? Literal.number
  rw [body]
  simp only [isSome_decimalDigit?, takeWhile_unsigned, List.drop_left, ofHalves_eq_ofDigits]
  unfold Literal.fractionOf
  cases parts : literal.fraction with
  | none =>
    rw [parts] at nonempty
    exact if_neg (by simpa using nonempty)
  | some fraction =>
    rw [parts] at digits nonempty
    change fraction.all isDigit = true at digits
    simp only [digits, if_true]
    exact if_neg (by simpa using nonempty)

theorem parse?_text :
    ∃ number, parse? literal.text = some number ∧ number.value = literal.value := by
  refine ⟨_, parse?_text_eq literal, ?_⟩
  rw [value_eq_signFactor]
  unfold Literal.value
  rw [number_append _ literal.fractionDigits, zpow_neg, zpow_natCast]
  push_cast
  field_simp

/-! ### Only such texts are read -/

theorem exists_newline (chars : List Char) :
    ∃ newline : Bool, chars = dropFinalNewline chars ++ if newline then ['\n'] else [] := by
  unfold dropFinalNewline
  by_cases last : chars.getLast? = some '\n'
  · refine ⟨true, ?_⟩
    rw [if_pos (by simp [last]), if_pos rfl]
    exact (List.dropLast_append_getLast? _ last).symm
  · exact ⟨false, by simp [last]⟩

theorem exists_sign (chars : List Char) :
    ∃ sign : Option Bool, chars = Literal.signOf sign ++ (splitSign chars).2 := by
  unfold splitSign
  split
  · exact ⟨some false, rfl⟩
  · exact ⟨some true, rfl⟩
  · exact ⟨none, rfl⟩

/-- Every text that is read as a decimal has the form of one. -/
theorem exists_literal_of_parse? {text : String} {number : Decimal}
    (read : parse? text = some number) :
    ∃ literal : Literal, literal.text = text := by
  obtain ⟨newline, line⟩ := exists_newline text.toList
  obtain ⟨sign, body⟩ := exists_sign (dropFinalNewline text.toList)
  unfold parse? at read
  generalize splitSign (dropFinalNewline text.toList) = split at read body
  obtain ⟨negative, unsigned⟩ := split
  simp only at read body
  generalize taken : unsigned.takeWhile (fun c => (Text.decimalDigit? c).isSome) = whole at read
  change unsigned.takeWhile isDigit = whole at taken
  have wholeDigits : whole.all isDigit = true := by
    rw [← taken]
    exact List.all_eq_true.mpr fun _ found => List.mem_takeWhile_imp found
  have parts : unsigned = whole ++ unsigned.drop whole.length := by
    rw [← taken]
    exact (List.prefix_iff_eq_append.mp (List.takeWhile_prefix isDigit)).symm
  have found (fraction : Option (List Char))
      (fractionDigits : (fraction.getD []).all isDigit = true)
      (rest : unsigned.drop whole.length = Literal.fractionOf fraction)
      (someDigit : whole ++ fraction.getD [] ≠ []) : ∃ literal : Literal, literal.text = text := by
    refine ⟨⟨sign, whole, fraction, newline, wholeDigits, fractionDigits, someDigit⟩, ?_⟩
    apply String.toList_injective
    rw [line, body, parts, rest]
    exact String.toList_ofList
  split at read
  case h_1 rest =>
    refine found none rfl rest ?_
    intro empty
    have noWhole : whole = [] := by simpa using empty
    subst noWhole
    simp at read
  case h_2 fraction rest =>
    by_cases digits : (fraction.all fun c => (Text.decimalDigit? c).isSome) = true
    · refine found (some fraction) digits rest ?_
      intro empty
      obtain ⟨noWhole, noFraction⟩ : whole = [] ∧ fraction = [] := by simpa using empty
      subst noWhole noFraction
      simp at read
    · rw [if_neg digits] at read
      cases read
  case h_3 => cases read

end LedgerWire.Decimal
