import LedgerWire.Proofs.Amount.Counting

/-!
Contract: arithmetic on counts of stroops is exact and never wraps, and arithmetic on the amounts of
these counts agrees with it. A result that has more than 64 bits is none as a count. As an amount it
is there, since amounts have more digits, and it is then refused when it is to be counted.

Owns:
- `Stroops.ExactOrNone`, which numbers the operations on counts return;
- `Amount.CountedAs`, and which counts the sums, differences and remainders of amounts stand for.

Does not own: products and quotients of amounts, which have other digits after the point than counts
have.
-/

namespace LedgerWire

open Decimal Wire

/-! ### Truncated quotients -/

theorem Decimal.integerPart_neg (x : ℚ) : integerPart (-x) = -integerPart x := by
  unfold integerPart
  rcases lt_trichotomy x 0 with below | rfl | above
  · rw [if_pos (by linarith), if_neg (by linarith), Int.floor_neg]
  · simp
  · rw [if_neg (by linarith), if_pos above.le, Int.ceil_neg]

theorem Decimal.integerPart_natCast_div (n unit : Nat) :
    integerPart ((n : ℚ) / unit) = ((n / unit : Nat) : Int) := by
  unfold integerPart
  rw [if_pos (by positivity), floor_natCast_div]

/-- The division of integers that rounds toward zero gives the integer part of the quotient. -/
theorem Decimal.integerPart_intCast_div (n unit : Int) :
    integerPart ((n : ℚ) / unit) = n.tdiv unit := by
  rcases n.eq_nat_or_neg with ⟨dividend, rfl | rfl⟩ <;>
    rcases unit.eq_nat_or_neg with ⟨divisor, rfl | rfl⟩
  · rw [Int.cast_natCast, Int.cast_natCast, integerPart_natCast_div]
    rfl
  · rw [Int.cast_neg, Int.cast_natCast, Int.cast_natCast, div_neg, integerPart_neg,
      integerPart_natCast_div, Int.tdiv_neg]
    rfl
  · rw [Int.cast_neg, Int.cast_natCast, Int.cast_natCast, neg_div, integerPart_neg,
      integerPart_natCast_div, Int.neg_tdiv]
    rfl
  · rw [Int.cast_neg, Int.cast_neg, Int.cast_natCast, Int.cast_natCast, neg_div_neg_eq,
      integerPart_natCast_div, Int.neg_tdiv, Int.tdiv_neg, neg_neg]
    rfl

/-! ### Counts -/

namespace Stroops

/-- Whether a reply is this number, or none where the number has more than 64 bits. -/
def ExactOrNone (reply : Option Stroops) (n : Int) : Prop :=
  if Integer.int64.Fits n then ∃ count, reply = some count ∧ count.value = n else reply = none

theorem exactOrNone_ofInt? (n : Int) : ExactOrNone (ofInt? n) n := by
  unfold ExactOrNone ofInt?
  by_cases fits : Integer.int64.Fits n
  · rw [if_pos fits, dif_pos fits]
    exact ⟨_, rfl, rfl⟩
  · rw [if_neg fits, dif_neg fits]

theorem exists_ofInt? {n : Int} (fits : Integer.int64.Fits n) :
    ∃ count, ofInt? n = some count ∧ count.value = n := by
  have made := exactOrNone_ofInt? n
  unfold ExactOrNone at made
  rwa [if_pos fits] at made

theorem natAbs_value_le (stroops : Stroops) : stroops.value.natAbs ≤ 2 ^ 63 := by
  have inRange := stroops.inRange
  simp only [Integer.Fits, Integer.least, Integer.greatest] at inRange
  omega

/-- The one quotient of counts that has more than 64 bits is that of the least count and minus
one. -/
theorem fits_tdiv {s t : Stroops} (regular : ¬ (t.value = 0 ∨ s.value = -2 ^ 63 ∧ t.value = -1)) :
    Integer.int64.Fits (s.value.tdiv t.value) := by
  have dividend := s.inRange
  have size : (s.value.tdiv t.value).natAbs = s.value.natAbs / t.value.natAbs := Int.natAbs_tdiv _ _
  simp only [Integer.Fits, Integer.least, Integer.greatest] at dividend ⊢
  rcases (by omega : t.value = 1 ∨ t.value = -1 ∨ 2 ≤ t.value.natAbs) with one | minusOne | several
  · rw [one, Int.tdiv_one]
    exact dividend
  · rw [minusOne, Int.tdiv_neg, Int.tdiv_one]
    omega
  · have half : s.value.natAbs / t.value.natAbs ≤ s.value.natAbs / 2 :=
      Nat.div_le_div_left several (by decide)
    omega

theorem natAbs_tmod_lt (n : Int) {unit : Int} (nonzero : unit ≠ 0) :
    (n.tmod unit).natAbs < unit.natAbs := by
  rw [Int.natAbs_tmod]
  exact Nat.mod_lt _ (Int.natAbs_pos.mpr nonzero)

theorem tmod_mul_nonneg (n unit : Int) : 0 ≤ n.tmod unit * n := by
  rcases n.eq_nat_or_neg with ⟨dividend, rfl | rfl⟩
  · exact mul_nonneg (Int.tmod_nonneg _ (Int.natCast_nonneg _)) (Int.natCast_nonneg _)
  · rw [Int.neg_tmod, neg_mul_neg]
    exact mul_nonneg (Int.tmod_nonneg _ (Int.natCast_nonneg _)) (Int.natCast_nonneg _)

theorem exists_checkedDiv {s t : Stroops}
    (regular : ¬ (t.value = 0 ∨ s.value = -2 ^ 63 ∧ t.value = -1)) :
    ∃ quotient, checkedDiv s t = some quotient ∧ quotient.value = s.value.tdiv t.value := by
  unfold checkedDiv
  rw [if_neg (not_or.mp regular).1]
  exact exists_ofInt? (fits_tdiv regular)

theorem exists_checkedRem {s t : Stroops}
    (regular : ¬ (t.value = 0 ∨ s.value = -2 ^ 63 ∧ t.value = -1)) :
    ∃ rest, checkedRem s t = some rest ∧ rest.value = s.value.tmod t.value := by
  rcases exists_checkedDiv regular with ⟨quotient, divided, value⟩
  have smaller := natAbs_tmod_lt s.value (not_or.mp regular).1
  have fits : Integer.int64.Fits (s.value.tmod t.value) := by
    have divisor := t.inRange
    simp only [Integer.Fits, Integer.least, Integer.greatest] at divisor ⊢
    omega
  have left : checkedRem s t = ofInt? (s.value - t.value * quotient.value) := by
    unfold checkedRem
    rw [divided]
    rfl
  rw [left, value, ← Int.tmod_def]
  exact exists_ofInt? fits

theorem checkedDiv_eq_none {s t : Stroops}
    (irregular : t.value = 0 ∨ s.value = -2 ^ 63 ∧ t.value = -1) :
    checkedDiv s t = none := by
  unfold checkedDiv
  rcases irregular with zero | ⟨least, minusOne⟩
  · rw [if_pos zero]
  · rw [least, minusOne]
    rfl

end Stroops

/-! ### Amounts -/

namespace Amount

/-- Whether an operation returns an amount that is counted like the reply, and refused where there
is none. -/
def CountedAs (returned : Except Failure (Option Amount)) (reply : Option Stroops) : Prop :=
  ∃ amount, returned = .ok (some amount) ∧
    amount.toStroops = match reply with
      | some count => .ok count
      | none => .error (Failure.withDetail .invalidStroops "amount" (.text amount.toText))

theorem value_ofStroops (stroops : Stroops) :
    (ofStroops stroops).value.value = stroops.value / 10 ^ stroopsScale := by
  rw [(toStroops_eq_ok_iff rfl).mp (toStroops_ofStroops stroops),
    mul_div_cancel_right₀ _ (by positivity)]

theorem signed_eq_of_value {amount : Amount} {n : Int} (seven : amount.scale = stroopsScale)
    (value : amount.value.value = n / 10 ^ stroopsScale) : amount.value.signed = n := by
  have exponent : amount.value.exponent = -(stroopsScale : Int) := by
    unfold Amount.scale Decimal.scale stroopsScale at seven
    unfold stroopsScale
    omega
  have signed := value_mul_tens exponent
  rw [value, div_mul_cancel₀ _ (by positivity)] at signed
  exact_mod_cast signed.symm

/-- An operation that is exact on numbers of 96 bits gives an amount for each result of two
counts. -/
theorem countedAs_of_exactOrNone {returned : Except Failure (Option Amount)} {n : Int}
    (exact : ExactOrNone returned stroopsScale (n / 10 ^ stroopsScale))
    (few : n.natAbs ≤ maxCoefficient) :
    CountedAs returned (Stroops.ofInt? n) := by
  have fewQ : |(n : ℚ) / 10 ^ stroopsScale| * 10 ^ stroopsScale ≤ maxCoefficient := by
    rw [abs_div, abs_of_pos (show (0 : ℚ) < 10 ^ stroopsScale by positivity),
      div_mul_cancel₀ _ (by positivity), ← Int.cast_abs, Int.abs_eq_natAbs]
    exact_mod_cast few
  unfold ExactOrNone at exact
  rw [if_pos fewQ] at exact
  rcases exact with ⟨amount, done, value, seven⟩
  refine ⟨amount, done, ?_⟩
  have signed := signed_eq_of_value seven value
  cases counted : Stroops.ofInt? n with
  | none =>
    show amount.toStroops = .error _
    unfold toStroops
    rw [if_neg (not_not.mpr seven), signed, counted]
  | some count =>
    show amount.toStroops = .ok count
    unfold toStroops
    rw [if_neg (not_not.mpr seven), signed, counted]

section Operands

variable (s t : Stroops)

theorem writtenOut_ofStroops : WrittenOut (ofStroops s) := by
  show -(7 : Int) ≤ 0
  decide

theorem countedAs_checkedAdd :
    CountedAs (checkedAdd (ofStroops s) (ofStroops t)) (s.checkedAdd t) := by
  have exact := exactOrNone_checkedAdd (writtenOut_ofStroops s) (writtenOut_ofStroops t)
  rw [value_ofStroops, value_ofStroops, ← add_div, ← Int.cast_add] at exact
  apply countedAs_of_exactOrNone exact
  -- 65 bits at most, of the 96 that an amount has
  have left := s.natAbs_value_le
  have right := t.natAbs_value_le
  unfold maxCoefficient
  omega

theorem countedAs_checkedSub :
    CountedAs (checkedSub (ofStroops s) (ofStroops t)) (s.checkedSub t) := by
  have exact := exactOrNone_checkedSub (writtenOut_ofStroops s) (writtenOut_ofStroops t)
  rw [value_ofStroops, value_ofStroops, ← sub_div, ← Int.cast_sub] at exact
  apply countedAs_of_exactOrNone exact
  have left := s.natAbs_value_le
  have right := t.natAbs_value_le
  unfold maxCoefficient
  omega

variable {s t}

theorem countedAs_checkedRem (nonzero : t.value ≠ 0) {rest : Stroops}
    (value : rest.value = s.value.tmod t.value) :
    CountedAs (checkedRem (ofStroops s) (ofStroops t)) (some rest) := by
  have scaleNonzero : (10 : ℚ) ^ stroopsScale ≠ 0 := by positivity
  have divisorNonzero : (ofStroops t).value.value ≠ 0 := by
    rw [value_ofStroops]
    exact div_ne_zero (by exact_mod_cast nonzero) scaleNonzero
  have exact :=
    exactOrNone_checkedRem (writtenOut_ofStroops s) (writtenOut_ofStroops t) divisorNonzero
  have left : (s.value : ℚ) / 10 ^ stroopsScale - t.value / 10 ^ stroopsScale *
      (s.value.tdiv t.value : Int) =
      (rest.value : ℚ) / 10 ^ stroopsScale := by
    rw [value, Int.tmod_def]
    push_cast
    ring
  rw [value_ofStroops, value_ofStroops, div_div_div_cancel_right₀ scaleNonzero,
    integerPart_intCast_div, left] at exact
  have counted : Stroops.ofInt? rest.value = some rest := by
    unfold Stroops.ofInt?
    rw [dif_pos rest.inRange]
  rw [← counted]
  apply countedAs_of_exactOrNone exact
  have size := rest.natAbs_value_le
  unfold maxCoefficient
  omega

end Operands

end Amount

/-- Sums, differences and products of counts are exact, and none just where they have more than 64
bits. The quotient is the integer part of the exact one, and the remainder is smaller than the
divisor and has the sign of the dividend; there is none just for a zero divisor and for the least
count over minus one. The sums, differences and remainders of the amounts of these counts are
counted alike. -/
theorem Stroops.checked_agrees
    (s t : Stroops) :
    (ExactOrNone (checkedAdd s t) (s.value + t.value) ∧
      ExactOrNone (checkedSub s t) (s.value - t.value) ∧
      ExactOrNone (checkedMul s t) (s.value * t.value)) ∧
    (if t.value = 0 ∨ s.value = -2 ^ 63 ∧ t.value = -1 then
      checkedDiv s t = none ∧ checkedRem s t = none
    else
      ∃ quotient rest, checkedDiv s t = some quotient ∧ checkedRem s t = some rest ∧
        quotient.value = integerPart ((s.value : ℚ) / t.value) ∧
        s.value = quotient.value * t.value + rest.value ∧ |rest.value| < |t.value| ∧
        0 ≤ rest.value * s.value ∧
        Amount.CountedAs (Amount.checkedRem (.ofStroops s) (.ofStroops t)) (some rest)) ∧
    Amount.CountedAs (Amount.checkedAdd (.ofStroops s) (.ofStroops t)) (checkedAdd s t) ∧
    Amount.CountedAs (Amount.checkedSub (.ofStroops s) (.ofStroops t)) (checkedSub s t) := by
  have exact : ExactOrNone (checkedAdd s t) (s.value + t.value) ∧
      ExactOrNone (checkedSub s t) (s.value - t.value) ∧
      ExactOrNone (checkedMul s t) (s.value * t.value) :=
    ⟨exactOrNone_ofInt? _, exactOrNone_ofInt? _, exactOrNone_ofInt? _⟩
  refine ⟨exact, ?_, Amount.countedAs_checkedAdd s t, Amount.countedAs_checkedSub s t⟩
  split_ifs with irregular
  · have none := checkedDiv_eq_none irregular
    refine ⟨none, ?_⟩
    unfold checkedRem
    rw [none]
    rfl
  · have nonzero := (not_or.mp irregular).1
    rcases exists_checkedDiv irregular with ⟨quotient, divided, quotientValue⟩
    rcases exists_checkedRem irregular with ⟨rest, left, restValue⟩
    have parts : s.value = quotient.value * t.value + rest.value := by
      rw [quotientValue, restValue]
      exact (Int.tdiv_mul_add_tmod _ _).symm
    refine ⟨quotient, rest, divided, left, ?_, parts, ?_, ?_,
      Amount.countedAs_checkedRem nonzero restValue⟩
    · rw [quotientValue, integerPart_intCast_div]
    · rw [restValue, Int.abs_eq_natAbs, Int.abs_eq_natAbs]
      exact_mod_cast natAbs_tmod_lt _ nonzero
    · rw [restValue]
      exact tmod_mul_nonneg _ _

end LedgerWire
