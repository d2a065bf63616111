import Mathlib.Computability.RegularExpressions
import LedgerWire.Price
import LedgerWire.Proofs.Decimal.Text
import LedgerWire.Proofs.Text.DecimalDigit

/-!
Contract: the grammar of decimal texts, a sign or none and then digits with at most one point among
them. Texts of amounts and prices follow it once digits of other scripts are taken for ASCII digits
and the one line feed that may end the text is left out.

Owns:
- the grammar, as a regular expression over ASCII;
- that exactly the texts that are read as decimals follow it in this sense;
- which texts of amounts and prices follow it as they stand.

Does not own: limits on the number of digits.
-/

namespace LedgerWire.Decimal

open RegularExpression (char star)
open Text

/-! ### The grammar -/

/-- One of the ten ASCII digits. -/
def digit : RegularExpression Char := ("0123456789".toList.map char).sum

def digits : RegularExpression Char := digit * star digit

/-- A sign or none; and digits, which a point and further digits may follow, or a point and then
digits. -/
def grammar : RegularExpression Char :=
  (1 + (char '+' + char '-')) * (digits * (1 + char '.' * star digit) + char '.' * digits)

theorem mem_digit {chars : List Char} :
    chars ∈ digit.matches' ↔ ∃ c : Char, c.isDigit = true ∧ chars = [c] := by
  have members (listed : List Char) :
      chars ∈ (listed.map char).sum.matches' ↔ ∃ c ∈ listed, chars = [c] := by
    induction listed with
    | nil => simp [Language.notMem_zero]
    | cons c listed inductionHypothesis =>
      rw [List.map_cons, List.sum_cons, RegularExpression.matches'_add, Language.mem_add,
        inductionHypothesis, List.exists_mem_cons_iff]
      exact Iff.rfl
  have ascii (c : Char) : c ∈ "0123456789".toList ↔ c.isDigit = true := by
    rw [show "0123456789".toList = (List.range 10).map Nat.digitChar by decide, List.mem_map]
    constructor
    · rintro ⟨value, small, rfl⟩
      rw [Nat.isDigit_digitChar, decide_eq_true_iff]
      exact List.mem_range.mp small
    · intro isDigit
      have range : 0x30 ≤ c.toNat ∧ c.toNat ≤ 0x39 := Char.isDigit_iff_toNat.mp isDigit
      exact ⟨c.toNat - 0x30, List.mem_range.mpr (by omega), digitChar_of_isDigit isDigit⟩
  unfold digit
  simp only [members, ascii]

theorem mem_star_digit {chars : List Char} :
    chars ∈ (star digit).matches' ↔ chars.all Char.isDigit = true := by
  rw [RegularExpression.matches'_star, Language.mem_kstar]
  constructor
  · rintro ⟨parts, rfl, each⟩
    rw [List.all_eq_true]
    intro c member
    rcases List.mem_flatten.mp member with ⟨part, isPart, inPart⟩
    rcases mem_digit.mp (each part isPart) with ⟨d, isDigit, rfl⟩
    rwa [List.mem_singleton.mp inPart]
  · intro each
    refine ⟨chars.map fun c => [c], ?_, ?_⟩
    · rw [← List.flatMap_def, List.flatMap_singleton']
    · intro part isPart
      rcases List.mem_map.mp isPart with ⟨c, member, rfl⟩
      exact mem_digit.mpr ⟨c, List.all_eq_true.mp each c member, rfl⟩

theorem mem_digits {chars : List Char} :
    chars ∈ digits.matches' ↔ chars ≠ [] ∧ chars.all Char.isDigit = true := by
  unfold digits
  rw [RegularExpression.matches'_mul, Language.mem_mul]
  constructor
  · rintro ⟨first, isFirst, rest, areRest, rfl⟩
    rcases mem_digit.mp isFirst with ⟨c, isDigit, rfl⟩
    have restDigits := mem_star_digit.mp areRest
    simp [isDigit, restDigits]
  · rintro ⟨nonempty, each⟩
    cases chars with
    | nil => exact absurd rfl nonempty
    | cons c rest =>
      rw [List.all_cons, Bool.and_eq_true] at each
      exact ⟨[c], mem_digit.mpr ⟨c, each.1, rfl⟩, rest, mem_star_digit.mpr each.2, rfl⟩

/-- The shape that the grammar gives a text, whatever counts as a digit. -/
def Shaped (isDigit : Char → Bool) (chars : List Char) : Prop :=
  ∃ (sign : Option Bool) (whole : List Char) (fraction : Option (List Char)),
    chars = Literal.signOf sign ++ (whole ++ Literal.fractionOf fraction) ∧
      whole.all isDigit = true ∧ (fraction.getD []).all isDigit = true ∧
      whole ++ fraction.getD [] ≠ []

theorem mem_sign {chars : List Char} :
    chars ∈ (1 + (char '+' + char '-')).matches' ↔ ∃ sign, chars = Literal.signOf sign := by
  have signs : (∃ sign, chars = Literal.signOf sign) ↔ chars = [] ∨ chars = ['+'] ∨
      chars = ['-'] := by
    simp only [Option.exists, Bool.exists_bool]
    rfl
  rw [signs]
  rfl

theorem mem_unsigned {chars : List Char} :
    chars ∈ (digits * (1 + char '.' * star digit) + char '.' * digits).matches' ↔
      ∃ (whole : List Char) (fraction : Option (List Char)),
      chars = whole ++ Literal.fractionOf fraction ∧
        whole.all Char.isDigit = true ∧ (fraction.getD []).all Char.isDigit = true ∧
          whole ++ fraction.getD [] ≠ [] := by
  rw [RegularExpression.matches'_add, RegularExpression.matches'_mul,
    RegularExpression.matches'_mul, RegularExpression.matches'_add, RegularExpression.matches'_mul,
    Language.mem_add, Language.mem_mul, Language.mem_mul]
  constructor
  · rintro (⟨whole, isWhole, _, noPoint | ⟨_, rfl, fraction, isFraction, rfl⟩, rfl⟩ |
      ⟨_, rfl, fraction, isFraction, rfl⟩)
    · obtain rfl : _ = [] := noPoint
      rcases mem_digits.mp isWhole with ⟨nonempty, wholeDigits⟩
      exact ⟨whole, none, rfl, wholeDigits, rfl, by simpa using nonempty⟩
    · rcases mem_digits.mp isWhole with ⟨nonempty, wholeDigits⟩
      exact ⟨whole, some fraction, rfl, wholeDigits,
        mem_star_digit.mp isFraction, by simp [nonempty]⟩
    · rcases mem_digits.mp isFraction with ⟨nonempty, fractionDigits⟩
      exact ⟨[], some fraction, rfl, rfl, fractionDigits, by simpa using nonempty⟩
  · rintro ⟨whole, fraction, rfl, wholeDigits, fractionDigits, nonempty⟩
    cases fraction with
    | none =>
      have wholeNonempty : whole ≠ [] := by simpa using nonempty
      exact .inl ⟨whole, mem_digits.mpr ⟨wholeNonempty, wholeDigits⟩, [], .inl rfl, rfl⟩
    | some fraction =>
      by_cases empty : whole = []
      · subst empty
        exact .inr ⟨['.'], rfl, fraction,
          mem_digits.mpr ⟨by simpa using nonempty, fractionDigits⟩, rfl⟩
      · exact .inl ⟨whole, mem_digits.mpr ⟨empty, wholeDigits⟩, '.' :: fraction,
          .inr ⟨['.'], rfl, fraction, mem_star_digit.mpr fractionDigits, rfl⟩, rfl⟩

theorem mem_grammar {chars : List Char} : chars ∈ grammar.matches' ↔ Shaped Char.isDigit chars := by
  unfold grammar Shaped
  rw [RegularExpression.matches'_mul, Language.mem_mul]
  simp only [mem_sign, mem_unsigned]
  constructor
  · rintro ⟨_, ⟨sign, rfl⟩, _, ⟨whole, fraction, rfl, digits⟩, rfl⟩
    exact ⟨sign, whole, fraction, rfl, digits⟩
  · rintro ⟨sign, whole, fraction, rfl, digits⟩
    exact ⟨_, ⟨sign, rfl⟩, _, ⟨whole, fraction, rfl, digits⟩, rfl⟩

/-! ### Digits of other scripts -/

theorem all_asciiDigit (chars : List Char) :
    (chars.map asciiDigit).all Char.isDigit = chars.all isDigit := by
  rw [List.all_map]
  congr 1
  funext c
  exact Bool.eq_iff_iff.mpr isDigit_asciiDigit_iff

theorem map_asciiDigit_signOf (sign : Option Bool) :
    (Literal.signOf sign).map asciiDigit = Literal.signOf sign := by
  match sign with
  | none => rfl
  | some false => rfl
  | some true => rfl

theorem map_asciiDigit_fractionOf (fraction : Option (List Char)) :
    (Literal.fractionOf fraction).map asciiDigit =
      Literal.fractionOf (fraction.map (List.map asciiDigit)) := by
  cases fraction <;> rfl

theorem eq_signOf_of_map {chars : List Char} {sign : Option Bool}
    (mapped : chars.map asciiDigit = Literal.signOf sign) : chars = Literal.signOf sign := by
  match sign with
  | none => exact List.map_eq_nil_iff.mp mapped
  | some false =>
    rcases List.map_eq_singleton_iff.mp mapped with ⟨c, rfl, plus⟩
    rw [(asciiDigit_eq_iff (by decide)).mp plus]
    rfl
  | some true =>
    rcases List.map_eq_singleton_iff.mp mapped with ⟨c, rfl, minus⟩
    rw [(asciiDigit_eq_iff (by decide)).mp minus]
    rfl

theorem exists_fractionOf_of_map {chars : List Char} {fraction : Option (List Char)}
    (mapped : chars.map asciiDigit = Literal.fractionOf fraction) :
    ∃ original : Option (List Char), chars = Literal.fractionOf original ∧
      original.map (List.map asciiDigit) = fraction := by
  cases fraction with
  | none => exact ⟨none, List.map_eq_nil_iff.mp mapped, rfl⟩
  | some digits =>
    rcases List.map_eq_cons_iff.mp mapped with ⟨c, original, rfl, point, rfl⟩
    rw [(asciiDigit_eq_iff (by decide)).mp point]
    exact ⟨some original, rfl, rfl⟩

theorem getD_map (fraction : Option (List Char)) :
    (fraction.map (List.map asciiDigit)).getD [] = (fraction.getD []).map asciiDigit := by
  cases fraction <;> rfl

/-- A text has the shape of a decimal, with digits of any script, if it has the shape with its
digits written in ASCII. -/
theorem shaped_map_iff {chars : List Char} :
    Shaped Char.isDigit (chars.map asciiDigit) ↔ Shaped isDigit chars := by
  constructor
  · rintro ⟨sign, whole, fraction, mapped, wholeDigits, fractionDigits, nonempty⟩
    rcases List.map_eq_append_iff.mp mapped with
      ⟨signChars, unsigned, rfl, signMapped, unsignedMapped⟩
    rcases List.map_eq_append_iff.mp unsignedMapped with ⟨whole, rest, rfl, rfl, restMapped⟩
    rcases exists_fractionOf_of_map restMapped with ⟨fraction, rfl, rfl⟩
    rw [all_asciiDigit] at wholeDigits
    rw [getD_map, all_asciiDigit] at fractionDigits
    rw [getD_map, ← List.map_append, ne_eq, List.map_eq_nil_iff] at nonempty
    exact ⟨sign, whole, fraction, by rw [eq_signOf_of_map signMapped], wholeDigits,
      fractionDigits, nonempty⟩
  · rintro ⟨sign, whole, fraction, rfl, wholeDigits, fractionDigits, nonempty⟩
    refine ⟨sign, whole.map asciiDigit, fraction.map (List.map asciiDigit), ?_, ?_, ?_, ?_⟩
    · rw [List.map_append, List.map_append, map_asciiDigit_signOf, map_asciiDigit_fractionOf]
    · rwa [all_asciiDigit]
    · rwa [getD_map, all_asciiDigit]
    · rwa [getD_map, ← List.map_append, ne_eq, List.map_eq_nil_iff]

/-! ### The texts that are read -/

theorem exists_literal_iff {text : String} :
    (∃ literal : Literal, literal.text = text) ↔ Shaped isDigit (dropFinalNewline text.toList) := by
  constructor
  · rintro ⟨literal, rfl⟩
    rw [Literal.text, String.toList_ofList,
      dropFinalNewline_append _ (newline_not_mem_line literal)]
    exact ⟨literal.sign, literal.whole, literal.fraction, rfl, literal.wholeDigits,
      literal.fractionDigits, literal.someDigit⟩
  · rintro ⟨sign, whole, fraction, line, wholeDigits, fractionDigits, someDigit⟩
    rcases exists_newline text.toList with ⟨newline, ending⟩
    refine ⟨⟨sign, whole, fraction, newline, wholeDigits, fractionDigits, someDigit⟩, ?_⟩
    apply String.toList_injective
    rw [ending, line]
    exact String.toList_ofList

theorem isSome_parse?_iff {text : String} :
    (parse? text).isSome = true ↔ ∃ literal : Literal, literal.text = text := by
  constructor
  · intro read
    exact exists_literal_of_parse? (Option.some_get read).symm
  · rintro ⟨literal, rfl⟩
    rw [parse?_text_eq]
    rfl

/-- A text without the line feed that may end it and with all digits written in ASCII. -/
def plain (text : String) : List Char := (dropFinalNewline text.toList).map asciiDigit

/-- Read as decimals are exactly the texts that follow the grammar but for the script of their
digits and a final line feed. -/
theorem isSome_parse?_iff_plain {text : String} :
    (parse? text).isSome = true ↔ plain text ∈ grammar.matches' := by
  rw [isSome_parse?_iff, exists_literal_iff, mem_grammar]
  exact shaped_map_iff.symm

theorem ascii_of_shaped {chars : List Char} (shaped : Shaped Char.isDigit chars) {c : Char}
    (member : c ∈ chars) :
    c.toNat < 0x80 ∧ c ≠ '\n' := by
  have ascii {c : Char} (isDigit : c.isDigit = true) : c.toNat < 0x80 ∧ c ≠ '\n' := by
    have range : 0x30 ≤ c.toNat ∧ c.toNat ≤ 0x39 := Char.isDigit_iff_toNat.mp isDigit
    refine ⟨by omega, ?_⟩
    rintro rfl
    cases isDigit
  rcases shaped with ⟨sign, whole, fraction, rfl, wholeDigits, fractionDigits, -⟩
  rcases List.mem_append.mp member with inSign | inUnsigned
  · match sign, inSign with
    | some false, inSign =>
      rw [List.mem_singleton.mp inSign]
      decide
    | some true, inSign =>
      rw [List.mem_singleton.mp inSign]
      decide
  · rcases List.mem_append.mp inUnsigned with inWhole | inFraction
    · exact ascii (List.all_eq_true.mp wholeDigits c inWhole)
    · match fraction, inFraction with
      | some digits, inFraction =>
        rcases List.mem_cons.mp inFraction with rfl | inDigits
        · decide
        · exact ascii (List.all_eq_true.mp fractionDigits c inDigits)

theorem plain_of_ascii {text : String} (ascii : ∀ c ∈ text.toList, c.toNat < 0x80 ∧ c ≠ '\n') :
    plain text = text.toList := by
  have noNewline : '\n' ∉ text.toList := fun member => (ascii _ member).2 rfl
  have line := dropFinalNewline_append false noNewline
  rw [if_neg Bool.false_ne_true, List.append_nil] at line
  unfold plain
  rw [line, List.map_congr_left fun c member =>
    asciiDigit_of_ascii (ascii c member).1, List.map_id']

/-! ### Texts of amounts and prices -/

/-- Whether a text is accepted as the text of an amount or of a price. -/
def Accepted (text : String) : Prop :=
  (∃ amount, Amount.parse text = .ok amount) ∨ ∃ price, Price.parse text = .ok price

theorem Accepted.isSome_parse? {text : String} (accepted : Accepted text) :
    (parse? text).isSome = true := by
  rw [Option.isSome_iff_ne_none]
  intro unread
  rcases accepted with ⟨amount, read⟩ | ⟨price, read⟩
  · unfold Amount.parse at read
    simp [unread] at read
  · unfold Price.parse at read
    simp only [unread] at read
    split_ifs at read

/-- What is accepted as the text of an amount or a price follows the grammar, once its digits are
written in ASCII and a final line feed is left out; and it follows the grammar as it stands if and
only if it is ASCII and has no line feed. -/
theorem grammar_of_accepted
    {text : String}
    (accepted : Accepted text) :
    plain text ∈ grammar.matches' ∧
      (text.toList ∈ grammar.matches' ↔ ∀ c ∈ text.toList, c.toNat < 128 ∧ c ≠ '\n') := by
  have follows := isSome_parse?_iff_plain.mp accepted.isSome_parse?
  refine ⟨follows, ?_⟩
  constructor
  · intro asItStands c member
    exact ascii_of_shaped (mem_grammar.mp asItStands) member
  · intro ascii
    rwa [plain_of_ascii ascii] at follows

/-- Three and a half with an Arabic digit before the point and a line feed at the end. -/
theorem grammar_of_accepted_arabic :
    Accepted "\u0663.5\n" ∧ plain "\u0663.5\n" = ['3', '.', '5'] ∧
      plain "\u0663.5\n" ∈ grammar.matches' ∧ "\u0663.5\n".toList ∉ grammar.matches' := by
  have accepted : Accepted "\u0663.5\n" := .inl ⟨_, rfl⟩
  rcases grammar_of_accepted accepted with ⟨follows, asItStands⟩
  refine ⟨accepted, by decide, follows, ?_⟩
  intro inGrammar
  exact (asItStands.mp inGrammar '\n' (by decide)).2 rfl

end LedgerWire.Decimal
