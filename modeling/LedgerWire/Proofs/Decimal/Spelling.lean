import LedgerWire.Proofs.Decimal.Text
import LedgerWire.Proofs.Text.DecimalDigit

/-!
Contract: which decimals are read from their own texts. A decimal that is written with all its
digits is read as just this decimal, sign, coefficient and exponent; one that is written with an
exponent is not read at all.

Owns:
- `Decimal.Positional`, the decimals that are written with all their digits, and the parts of their
  texts;
- that exactly these are read from their texts.

Does not own: what texts are read besides.
-/

namespace LedgerWire.Decimal

open Text

/-! ### Digits -/

theorem isDigit_of_ascii {c : Char} (ascii : c.isDigit = true) : isDigit c = true := by
  unfold isDigit
  rw [decimalDigit?_of_isDigit ascii]
  rfl

/-- The number that ASCII digits spell. -/
theorem number_eq_ofDigitChars {digits : List Char} (ascii : ∀ c ∈ digits, c.isDigit = true) :
    Literal.number digits = Nat.ofDigitChars 10 digits 0 := by
  have fold (start : Nat) :
      (digits.filterMap decimalDigit?).foldl (fun value digit => value * 10 + digit) start =
      digits.foldl (fun value c => 10 * value + (c.toNat - 0x30)) start := by
    induction digits generalizing start with
    | nil => rfl
    | cons c rest inductionHypothesis =>
      have first := ascii c List.mem_cons_self
      have others : ∀ d ∈ rest, d.isDigit = true := fun d member =>
        ascii d (List.mem_cons_of_mem c member)
      rw [List.filterMap_cons_some (decimalDigit?_of_isDigit first), List.foldl_cons,
        List.foldl_cons, inductionHypothesis others, Nat.mul_comm start]
  exact fold 0

/-- The digits of a decimal that is written with all of them, at least one of them before the
point. -/
def filledDigits (d : Decimal) : List Char :=
  List.replicate (d.scale + 1 - (Nat.toDigits 10 d.coefficient).length) '0' ++
    Nat.toDigits 10 d.coefficient

/-- The digits before the point. -/
def wholeDigits (d : Decimal) : List Char := d.filledDigits.take (d.filledDigits.length - d.scale)

/-- The digits after the point. -/
def fractionDigits (d : Decimal) : List Char :=
    d.filledDigits.drop (d.filledDigits.length - d.scale)

variable (d : Decimal)

theorem wholeDigits_append_fractionDigits : d.wholeDigits ++ d.fractionDigits = d.filledDigits :=
  List.take_append_drop _ _

theorem isDigit_of_mem_filledDigits {c : Char} (member : c ∈ d.filledDigits) :
    c.isDigit = true := by
  rcases List.mem_append.mp member with zero | digit
  · rw [List.eq_of_mem_replicate zero]
    rfl
  · exact Nat.isDigit_of_mem_toDigits (by decide) (by decide) digit

theorem scale_lt_length_filledDigits : d.scale < d.filledDigits.length := by
  unfold filledDigits
  rw [List.length_append, List.length_replicate]
  omega

theorem length_fractionDigits : d.fractionDigits.length = d.scale := by
  have := scale_lt_length_filledDigits d
  unfold fractionDigits
  rw [List.length_drop]
  omega

theorem wholeDigits_ne_nil : d.wholeDigits ≠ [] := by
  have := scale_lt_length_filledDigits d
  unfold wholeDigits
  rw [ne_eq, List.take_eq_nil_iff, not_or, ← List.length_eq_zero_iff]
  omega

theorem number_filledDigits : Literal.number d.filledDigits = d.coefficient := by
  rw [number_eq_ofDigitChars fun c member => isDigit_of_mem_filledDigits d member]
  unfold filledDigits
  rw [Nat.ofDigitChars_append, Nat.ofDigitChars_replicate_zero, Nat.mul_zero]
  exact Nat.ofDigitChars_ten_toDigits

/-! ### Texts with all digits -/

/-- Whether a decimal is written with all its digits. -/
def Positional : Prop := d.exponent ≤ 0 ∧ -6 ≤ d.adjusted

/-- The parts of a text with all digits. -/
def spelling : Literal where
  sign := if d.negative then some true else none
  whole := d.wholeDigits
  fraction := if d.fractionDigits.isEmpty then none else some d.fractionDigits
  newline := false
  wholeDigits := by
    rw [List.all_eq_true]
    intro c member
    exact isDigit_of_ascii (isDigit_of_mem_filledDigits d (List.mem_of_mem_take member))
  fractionDigits := by
    rw [List.all_eq_true]
    intro c member
    split_ifs at member
    · cases member
    · exact isDigit_of_ascii (isDigit_of_mem_filledDigits d (List.mem_of_mem_drop member))
  someDigit := List.append_ne_nil_of_left_ne_nil (wholeDigits_ne_nil d) _

theorem fraction_spelling : d.spelling.fraction.getD [] = d.fractionDigits := by
  show (if d.fractionDigits.isEmpty then none else some d.fractionDigits).getD [] = _
  cases d.fractionDigits <;> rfl

variable {d}

theorem toText_of_positional (positional : d.Positional) : d.toText = d.spelling.text := by
  have plain : (decide (d.exponent ≤ 0) && decide (-6 ≤ d.adjusted)) = true := by
    rw [Bool.and_eq_true, decide_eq_true_eq, decide_eq_true_eq]
    exact positional
  have sign : (if d.negative then "-" else "").toList = Literal.signOf d.spelling.sign := by
    show _ = Literal.signOf (if d.negative then some true else none)
    cases d.negative <;> rfl
  have fraction : (if d.fractionDigits.isEmpty then [] else ['.']) ++ d.fractionDigits =
      Literal.fractionOf d.spelling.fraction := by
    show _ = Literal.fractionOf (if d.fractionDigits.isEmpty then none else some d.fractionDigits)
    cases d.fractionDigits <;> rfl
  apply String.toList_injective
  unfold toText
  rw [if_pos plain, String.toList_append, sign, String.toList_ofList]
  change _ ++
    (d.wholeDigits ++ (if d.fractionDigits.isEmpty then [] else ['.']) ++ d.fractionDigits) = _
  rw [List.append_assoc, fraction, Literal.text, String.toList_ofList]
  exact (List.append_nil _).symm

/-- A decimal that is written with all its digits is read from its text. -/
theorem parse?_toText_of_positional (positional : d.Positional) : parse? d.toText = some d := by
  have negative : (d.spelling.sign == some true) = d.negative := by
    show ((if d.negative then some true else none) == some true) = _
    cases d.negative <;> rfl
  have exponent : -(d.scale : Int) = d.exponent := by
    unfold scale
    have := positional.1
    omega
  rw [toText_of_positional positional, parse?_text_eq, fraction_spelling, negative,
    length_fractionDigits, exponent]
  change some (mk _ (Literal.number (d.wholeDigits ++ d.fractionDigits)) _) = _
  rw [wholeDigits_append_fractionDigits, number_filledDigits]

/-! ### Texts with an exponent -/

theorem exponentMark_mem_toText (notPositional : ¬ d.Positional) : 'E' ∈ d.toText.toList := by
  have scientific : ¬ (decide (d.exponent ≤ 0) && decide (-6 ≤ d.adjusted)) = true := by
    rw [Bool.and_eq_true, decide_eq_true_eq, decide_eq_true_eq]
    exact notPositional
  have mark : 'E' ∈ (if d.adjusted < 0 then "E" else "E+").toList := by
    split_ifs <;> decide
  unfold toText
  rw [if_neg scientific]
  simp only [String.toList_append, List.mem_append]
  exact .inl (.inr mark)

/-- Only digits, signs, points and line feeds occur in a text that is read. -/
theorem not_mem_text (literal : Literal) {c : Char} (noDigit : ¬ isDigit c = true)
    (noMark : c ∉ ['+', '-', '.', '\n']) :
    c ∉ literal.text.toList := by
  simp only [List.mem_cons, List.not_mem_nil, or_false, not_or] at noMark
  have noSign : c ∉ Literal.signOf literal.sign := by
    match literal.sign with
    | none => exact List.not_mem_nil
    | some false => simpa [Literal.signOf] using noMark.1
    | some true => simpa [Literal.signOf] using noMark.2.1
  have noNewline : c ∉ if literal.newline then ['\n'] else [] := by
    split_ifs
    · simpa using noMark.2.2.2
    · exact List.not_mem_nil
  rw [Literal.text, String.toList_ofList, Literal.line, List.mem_append, List.mem_append,
    not_or, not_or]
  exact ⟨⟨noSign, literal.not_mem_unsigned noDigit noMark.2.2.1⟩, noNewline⟩

/-- A decimal that is written with an exponent is not read. -/
theorem parse?_toText_of_not_positional (notPositional : ¬ d.Positional) :
    parse? d.toText = none := by
  by_contra read
  rcases Option.ne_none_iff_exists'.mp read with ⟨number, read⟩
  rcases exists_literal_of_parse? read with ⟨literal, text⟩
  apply not_mem_text literal (c := 'E') (by decide) (by decide)
  rw [text]
  exact exponentMark_mem_toText notPositional

end LedgerWire.Decimal
