import LedgerWire.Proofs.Price.Parsing

/-!
Contract: how near the price that a text is read as comes to the text's value. No fraction with both
parts below the greatest 32-bit number lies between the two. But the price is the end of a continued
fraction, and only one more fraction on the value's side may be nearer: then the price is not the
nearest one.

Owns:
- when the price read from a text is the nearest one to the text's value.

Does not own: which texts have no price.
-/

namespace LedgerWire.Price

open Decimal Wire

theorem parts_of_make {numerator denominator : Int} {price : Price}
    (made : make numerator denominator = .ok price) :
    price.numerator = numerator ∧ price.denominator = denominator := by
  unfold make at made
  split_ifs at made
  cases made
  exact ⟨rfl, rfl⟩

/-- A price has the integer parts of a convergent that has no part zero. -/
theorem toInt_of_ofConvergent {text : String} {convergent : Convergent} {price : Price}
    (made : ofConvergent text convergent = .ok price) :
    (convergent.numerator.value ≠ 0 ∧ convergent.denominator.value ≠ 0) ∧
      price.numerator = convergent.numerator.toInt ∧
      price.denominator = convergent.denominator.toInt := by
  unfold ofConvergent at made
  split_ifs at made with zero
  rw [Bool.or_eq_true, isZero_iff, isZero_iff, not_or] at zero
  split at made
  · next found makes =>
    cases made
    exact ⟨zero, parts_of_make makes⟩
  · cases made
  · cases made

theorem parts_of_ofConvergent {text : String} {convergent : Convergent} {parts : Nat × Nat}
    {price : Price}
    (isFraction : convergent.IsFraction parts) (made : ofConvergent text convergent = .ok price) :
    (1 ≤ parts.1 ∧ 1 ≤ parts.2) ∧ price.numerator = parts.1 ∧ price.denominator = parts.2 := by
  obtain ⟨⟨numeratorNonzero, denominatorNonzero⟩, numerator, denominator⟩ :=
    toInt_of_ofConvergent made
  rw [isFraction.1, Nat.cast_ne_zero] at numeratorNonzero
  rw [isFraction.2, Nat.cast_ne_zero] at denominatorNonzero
  rw [numerator, denominator]
  exact ⟨⟨Nat.pos_of_ne_zero numeratorNonzero, Nat.pos_of_ne_zero denominatorNonzero⟩,
    toInt_eq_of_value (by exact_mod_cast isFraction.1),
    toInt_eq_of_value (by exact_mod_cast isFraction.2)⟩

theorem exists_convergent_of_parse {text : String} {number : Decimal} {price : Price}
    (read : Decimal.parse? text = some number) (parsed : parse text = .ok price) :
    ∃ convergent, approximate number = .ok convergent ∧
      ofConvergent text convergent = .ok price := by
  unfold parse at parsed
  split_ifs at parsed
  rw [read] at parsed
  simp only at parsed
  split at parsed
  · cases parsed
  · next convergent approximated => exact ⟨convergent, approximated, parsed⟩

/-- The price that a text is read as has no fraction with both parts below the greatest 32-bit
number between it and the text's value. It is the nearest of all fractions with 32-bit parts just if
its one neighbour on the value's side, which has the greatest such parts, is not nearer. -/
theorem nearest_parse_iff (literal : Literal) (positive : 0 < literal.value) {price : Price}
    (parsed : parse literal.text = .ok price) :
    ∃ near far : Nat × Nat, price.numerator = near.1 ∧ price.denominator = near.2 ∧
      (∀ other, Within (2 ^ 31 - 2) other → ¬ Between (ratio other) (ratio near) literal.value) ∧
      Neighbour (2 ^ 31 - 1) literal.value near far ∧
      (Nearest (2 ^ 31 - 1) literal.value near ↔
        |literal.value - ratio near| ≤ |literal.value - ratio far|) := by
  obtain ⟨number, read, value⟩ := parse?_text literal
  obtain ⟨convergent, approximated, made⟩ := exists_convergent_of_parse read parsed
  rw [← value] at positive ⊢
  obtain ⟨last, isFraction, settled⟩ := isSettled_of_approximate positive.le approximated
  obtain ⟨⟨numeratorPositive, denominatorPositive⟩, numerator, denominator⟩ :=
    parts_of_ofConvergent isFraction made
  have neighbour := settled.neighbour numeratorPositive denominatorPositive
  refine ⟨last.newer, last.mediant last.lastTimes, numerator, denominator, ?_, neighbour,
    nearest_iff denominatorPositive neighbour⟩
  intro other within
  have below : Below other := by
    have := within.numerator_le
    have := within.denominator_le
    unfold Below
    omega
  exact settled.not_between below within.denominator_pos denominatorPositive

/-- Nine digits after the point, and a price whose neighbour is nearer. -/
theorem nearest_parse_iff_neighbourNearer :
    ∃ (literal : Literal) (price : Price), literal.text = "2.151115461" ∧
      literal.value = 2151115461 / 10 ^ 9 ∧
      parse literal.text = .ok price ∧ price.numerator = 158150312 ∧ price.denominator = 73520141 ∧
      ∃ far, Neighbour (2 ^ 31 - 1) literal.value (158150312, 73520141) far ∧
        ¬ Nearest (2 ^ 31 - 1) literal.value (158150312, 73520141) ∧
        |literal.value - ratio far| < |literal.value - ratio (158150312, 73520141)| := by
  let literal : Literal :=
    { sign := none
      whole := ['2']
      fraction := some ['1', '5', '1', '1', '1', '5', '4', '6', '1']
      newline := false
      wholeDigits := by decide +kernel
      fractionDigits := by decide +kernel
      someDigit := by simp }
  have whole : Literal.number literal.whole = 2 := by decide +kernel
  have fraction : Literal.number (literal.fraction.getD []) = 151115461 := by decide +kernel
  have value : literal.value = 2151115461 / 10 ^ 9 := by
    unfold Literal.value
    rw [whole, fraction]
    change 1 * (((2 : Nat) : ℚ) + ((151115461 : Nat) : ℚ) / 10 ^ 9) = _
    norm_num
  have parsed : parse literal.text = .ok ⟨158150312, 73520141, by decide, by decide⟩ := by
    decide +kernel
  obtain ⟨near, far, numerator, denominator, -, neighbour, nearest⟩ :=
    nearest_parse_iff literal (by rw [value]; norm_num) parsed
  have near_eq : near = (158150312, 73520141) := by
    change (158150312 : Int) = near.1 at numerator
    change (73520141 : Int) = near.2 at denominator
    exact Prod.ext (by change near.1 = 158150312; omega) (by change near.2 = 73520141; omega)
  rw [near_eq] at neighbour nearest
  refine ⟨literal, _, by decide +kernel, value, parsed, rfl, rfl, far, neighbour, ?_⟩
  have notNearest : ¬ Nearest (2 ^ 31 - 1) literal.value (158150312, 73520141) := by
    intro holds
    have closer := holds (1992965149, 926479859) ⟨by decide, by decide, by decide, by decide⟩
    unfold ratio at closer
    rw [value] at closer
    norm_num [abs_of_pos, abs_of_neg] at closer
  exact ⟨notNearest, not_le.mp (nearest.not.mp notNearest)⟩

end LedgerWire.Price
