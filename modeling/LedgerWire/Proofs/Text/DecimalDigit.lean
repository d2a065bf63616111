import LedgerWire.Text.DecimalDigit

/-!
Contract: the decimal digits of ASCII among those of all scripts. They are `0` to `9`, with their
usual values, and no other character below 128 is a decimal digit.

Owns:
- what `decimalDigit?` says of ASCII characters;
- the ASCII digit of a value.

Does not own: the digits of any other script.
-/

namespace LedgerWire.Text

/-- The runs of digits are the ASCII digits and runs that start behind ASCII. -/
theorem digitZeros_ascii : ∀ start ∈ digitZeros.tail, 0x80 ≤ start := by decide

theorem decimalDigit?_of_ascii {c : Char} (ascii : c.toNat < 0x80) :
    decimalDigit? c = if c.isDigit then some (c.toNat - 0x30) else none := by
  have others :
      digitZeros.tail.find? (fun start => start ≤ c.toNat && c.toNat < start + 10) = none := by
    rw [List.find?_eq_none]
    intro start member
    have above := digitZeros_ascii start member
    simp only [Bool.and_eq_true, decide_eq_true_eq, not_and]
    omega
  unfold decimalDigit?
  rw [show digitZeros = 0x30 :: digitZeros.tail from rfl, List.find?_cons, others]
  by_cases digit : c.isDigit = true
  · have range : 0x30 ≤ c.toNat ∧ c.toNat ≤ 0x39 := Char.isDigit_iff_toNat.mp digit
    have found : (decide (0x30 ≤ c.toNat) && decide (c.toNat < 0x30 + 10)) = true := by
      simp only [Bool.and_eq_true, decide_eq_true_eq]
      omega
    rw [if_pos digit, found]
    rfl
  · have range : ¬ (0x30 ≤ c.toNat ∧ c.toNat ≤ 0x39) := mt Char.isDigit_iff_toNat.mpr digit
    have missed : (decide (0x30 ≤ c.toNat) && decide (c.toNat < 0x30 + 10)) = false := by
      rw [← Bool.not_eq_true]
      simp only [Bool.and_eq_true, decide_eq_true_eq]
      omega
    rw [if_neg digit, missed]
    rfl

theorem decimalDigit?_of_isDigit {c : Char} (digit : c.isDigit = true) :
    decimalDigit? c = some (c.toNat - 0x30) := by
  have range : 0x30 ≤ c.toNat ∧ c.toNat ≤ 0x39 := Char.isDigit_iff_toNat.mp digit
  rw [decimalDigit?_of_ascii (by omega), if_pos digit]

theorem decimalDigit?_lt {c : Char} {value : Nat} (found : decimalDigit? c = some value) :
    value < 10 := by
  unfold decimalDigit? at found
  rcases Option.map_eq_some_iff.mp found with ⟨start, run, rfl⟩
  have range := List.find?_some run
  simp only [Bool.and_eq_true, decide_eq_true_eq] at range
  omega

theorem digitChar_of_isDigit {c : Char} (digit : c.isDigit = true) :
    Nat.digitChar (c.toNat - 0x30) = c := by
  have range : 0x30 ≤ c.toNat ∧ c.toNat ≤ 0x39 := Char.isDigit_iff_toNat.mp digit
  apply Char.toNat_inj.mp
  rw [Nat.toNat_digitChar_of_lt_ten (by omega)]
  omega

/-- A digit of any script as the ASCII digit of the same value; every other character as it is. -/
def asciiDigit (c : Char) : Char :=
  match decimalDigit? c with
  | some value => Nat.digitChar value
  | none => c

theorem isDigit_asciiDigit_iff {c : Char} :
    (asciiDigit c).isDigit = true ↔ (decimalDigit? c).isSome = true := by
  unfold asciiDigit
  cases found : decimalDigit? c with
  | some value =>
    have small := decimalDigit?_lt found
    simp [Nat.isDigit_digitChar, small]
  | none =>
    simp only [Option.isSome_none, Bool.false_eq_true, iff_false]
    intro digit
    rw [decimalDigit?_of_isDigit digit] at found
    cases found

/-- No digit becomes a character that is none. -/
theorem asciiDigit_eq_iff {c other : Char} (noDigit : decimalDigit? other = none) :
    asciiDigit c = other ↔ c = other := by
  by_cases digit : (decimalDigit? c).isSome = true
  · have ascii := decimalDigit?_of_isDigit (isDigit_asciiDigit_iff.mpr digit)
    apply iff_of_false
    · rintro rfl
      rw [ascii] at noDigit
      cases noDigit
    · rintro rfl
      rw [noDigit] at digit
      cases digit
  · unfold asciiDigit
    rw [Option.not_isSome_iff_eq_none.mp digit]

theorem asciiDigit_of_ascii {c : Char} (ascii : c.toNat < 0x80) : asciiDigit c = c := by
  by_cases digit : c.isDigit = true
  · unfold asciiDigit
    rw [decimalDigit?_of_isDigit digit]
    exact digitChar_of_isDigit digit
  · unfold asciiDigit
    rw [decimalDigit?_of_ascii ascii, if_neg digit]

end LedgerWire.Text
