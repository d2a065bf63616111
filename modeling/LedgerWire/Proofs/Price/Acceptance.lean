import LedgerWire.Proofs.Decimal.Underflow
import LedgerWire.Proofs.Price.Nearest
import LedgerWire.Proofs.Price.Passes

/-!
Contract: which numbers from one up to the greatest part of a price have a price. The expansion
takes the number's integer part over one, which is a price already, unless that is the greatest part
itself: then it has taken nothing. What it goes on to do has no result only where the number is
above an integer by so little that the reciprocal of the difference is too great.

Owns:
- `Price.Faint`, and when the expansion of a number has a result;
- `Price.exists_price_iff`.

Does not own: which price that is.
-/

namespace LedgerWire.Price

open Decimal

variable {number : Decimal} {older newer next : Convergent}

/-- Whether a number is above an integer by so little that the reciprocal of the difference is too
great for a decimal, and by enough for the difference not to vanish in rounding. A reciprocal is too
great up to `10 ^ 26` least units, to which half a unit more is rounded down. -/
def Faint (x : ℚ) : Prop :=
  leastUnit precision < 2 * Int.fract x ∧ 2 * Int.fract x ≤ (2 * 10 ^ 26 + 1) * leastUnit precision

/-! ### The first convergent -/

theorem exists_takes_first (nonnegative : 0 ≤ number.value) (below : number.value < 2147483647) :
    ∃ next, Takes number formalConvergents.1 formalConvergents.2 next ∧
      next.IsFraction (⌊number.value⌋₊, 1) := by
  have follows := follows_start nonnegative
  obtain ⟨whole, floor, wholeLe⟩ := exists_floor nonnegative below.le
  have wholeValue : number.floor.value = whole := by
    rw [value_floor, floor, Int.cast_natCast]
  have wholeLt : whole < 2147483647 := by
    have atMost := Int.floor_le number.value
    rw [floor, Int.cast_natCast] at atMost
    exact_mod_cast atMost.trans_lt below
  obtain ⟨next, made, numerator, denominator⟩ :=
    exists_next follows.older follows.newer wholeValue
      (multiplyAdd_few wholeLe follows.newerBelow.1 follows.olderBelow.1)
      (multiplyAdd_few wholeLe follows.newerBelow.2 follows.olderBelow.2)
  change next.numerator.value = ((whole * 1 + 0 : Nat) : ℚ) at numerator
  change next.denominator.value = ((whole * 0 + 1 : Nat) : ℚ) at denominator
  rw [mul_one, add_zero] at numerator
  rw [mul_zero, zero_add, Nat.cast_one] at denominator
  refine ⟨next, ⟨below.le, made, ?_, ?_⟩, ?_, ?_⟩
  · rw [denominator]
    norm_num
  · rw [numerator]
    exact_mod_cast wholeLt
  · rw [numerator, ← Int.floor_toNat, floor, Int.toNat_natCast]
  · exact_mod_cast denominator

/-! ### When there is a result -/

theorem fraction_le_even_iff {fraction : Decimal} (even : Nat) (isEven : even % 2 = 0)
    (few : even < 10 ^ precision)
    (subtracted : number.sub precision number.floor = .ok fraction)
    (nonnegative : 0 ≤ fraction.value) :
    fraction.value ≤ even * leastUnit precision ↔
      2 * Int.fract number.value ≤ (2 * even + 1) * leastUnit precision := by
  have rounded := abs_sub_le_even_iff one_le_precision isEven few subtracted
  rw [value_floor] at rounded
  change |fraction.value| ≤ _ ↔ 2 * |Int.fract number.value| ≤ _ at rounded
  rwa [abs_of_nonneg nonnegative, abs_of_nonneg (Int.fract_nonneg _)] at rounded

/-- If what is left of the number has a reciprocal, the expansion has a result. -/
theorem exists_approximate_of_reciprocal {fraction reciprocal : Decimal}
    (nonnegative : 0 ≤ number.value)
    (rounded : Rounded precision (Int.fract number.value) fraction.value)
    (nonzero : fraction.isZero = false)
    (divided : (Decimal.ofInt 1).div precision fraction = .ok reciprocal)
    (ended : run 46 reciprocal formalConvergents.2 next = some (approximate number)) :
    ∃ result, approximate number = .ok result := by
  by_cases visible : Visible number.value
  · obtain ⟨result, found, -⟩ := (follows_start nonnegative).run visible
    exact ⟨result, found⟩
  · -- the reciprocal is beyond the bound, and no other convergent is taken
    have tiny : Int.fract number.value ≤ 1 / 10 ^ 27 := (not_le.mp (not_or.mp visible).2).le
    have great := reciprocal_of_tiny (Int.fract_nonneg _) tiny rounded nonzero divided
    have above : 2147483647 < reciprocal.value := by
      norm_num at great
      linarith
    rw [run_of_ends 45 (pass_of_gt above)] at ended
    exact ⟨next, (Option.some.inj ended).symm⟩

theorem exists_approximate_iff (nonnegative : 0 ≤ number.value)
    (below : number.value < 2147483647) :
    (∃ result, approximate number = .ok result) ↔ ¬ Faint number.value := by
  obtain ⟨next, takes, -⟩ := exists_takes_first nonnegative below
  obtain ⟨fraction, subtracted, rounded⟩ := exists_fraction number
  have fractionNonnegative := rounded.le_rounded representable_zero (Int.fract_nonneg _)
  have vanishes := fraction_le_even_iff 0 rfl (by decide) subtracted fractionNonnegative
  have tooSmall :=
    fraction_le_even_iff (10 ^ 26) (by decide) (by decide) subtracted fractionNonnegative
  rw [Nat.cast_zero, zero_mul, mul_zero, zero_add, one_mul] at vanishes
  rw [Nat.cast_pow, Nat.cast_ofNat] at tooSmall
  unfold Faint
  rw [← not_le, ← vanishes, ← tooSmall, not_le]
  rcases takes.approximate_cases subtracted with ⟨zero, found⟩ | ⟨nonzero, outcome⟩
  · refine iff_of_true ⟨next, found⟩ ?_
    rw [isZero_iff] at zero
    exact fun faint => faint.1.ne' zero
  · have positive := lt_of_le_of_ne fractionNonnegative (isZero_eq_false_iff.mp nonzero).symm
    have reciprocalIff := exists_reciprocal_iff 26 rounded.representable positive
    rcases outcome with ⟨condition, divided, failed⟩ | ⟨reciprocal, divided, ended⟩
    · refine iff_of_false ?_ ?_
      · rw [failed]
        exact fun ⟨_, impossible⟩ => nomatch impossible
      · refine not_not.mpr ⟨positive, not_lt.mp (reciprocalIff.not.mp ?_)⟩
        rintro ⟨reciprocal, found⟩
        cases divided.symm.trans found
    · refine iff_of_true
        (exists_approximate_of_reciprocal nonnegative rounded nonzero divided ended) ?_
      exact fun faint => absurd faint.2 (not_le.mpr (reciprocalIff.mp ⟨reciprocal, divided⟩))

/-! ### Positive parts -/

/-- Whether neither part of a convergent is below a number. -/
structure Convergent.AtLeast (least : ℚ) (convergent : Convergent) : Prop where
  numerator : least ≤ convergent.numerator.value
  denominator : least ≤ convergent.denominator.value

theorem Takes.atLeast_one (takes : Takes number older newer next) (olderLeast : older.AtLeast 0)
    (newerLeast : newer.AtLeast 1) (one : 1 ≤ number.value) : next.AtLeast 1 := by
  have whole := one_le_floor one
  have computed := next_eq_ok takes.made
  constructor
  · exact le_multiplyAdd representable_one representable_one
      (one_le_mul_of_one_le_of_one_le whole newerLeast.numerator)
      (by linarith [olderLeast.numerator]) computed.1
  · exact le_multiplyAdd representable_one representable_one
      (one_le_mul_of_one_le_of_one_le whole newerLeast.denominator)
      (by linarith [olderLeast.denominator]) computed.2

theorem atLeast_one_of_approximate {result : Convergent} (one : 1 ≤ number.value)
    (below : number.value < 2147483647)
    (found : approximate number = .ok result) : result.AtLeast 1 := by
  obtain ⟨next, takes, numerator, denominator⟩ := exists_takes_first (by linarith) below
  obtain ⟨fraction, subtracted, -⟩ := exists_fraction number
  have nextLeast : next.AtLeast 1 := by
    have whole : 1 ≤ ⌊number.value⌋₊ := Nat.le_floor (by exact_mod_cast one)
    refine ⟨?_, ?_⟩
    · rw [numerator]
      exact_mod_cast whole
    · rw [denominator, Nat.cast_one]
  rcases takes.approximate_cases subtracted with ⟨-, first⟩ | ⟨nonzero, outcome⟩
  · cases first.symm.trans found
    exact nextLeast
  rcases outcome with ⟨condition, -, failed⟩ | ⟨reciprocal, divided, ended⟩
  · cases failed.symm.trans found
  · rw [found] at ended
    have improper := one_le_reciprocal subtracted (isZero_eq_false_iff.mp nonzero) divided
    have formalLeast : formalConvergents.2.AtLeast 0 :=
      ⟨by simp [formalConvergents], by simp [formalConvergents]⟩
    let Kept (older newer : Convergent) : Prop := older.AtLeast 0 ∧ newer.AtLeast 1
    have kept : ∃ before, Kept before result := by
      refine exists_kept_of_run ?_ improper ⟨formalLeast, nextLeast⟩ ended
      rintro number older newer next ⟨olderLeast, newerLeast⟩ one takes
      have newerNonnegative : newer.AtLeast 0 :=
        ⟨zero_le_one.trans newerLeast.numerator, zero_le_one.trans newerLeast.denominator⟩
      exact ⟨newerNonnegative, takes.atLeast_one olderLeast newerLeast one⟩
    obtain ⟨-, -, resultLeast⟩ := kept
    exact resultLeast

/-! ### Prices -/

/-- The greatest part over one is not taken. -/
theorem not_takes_of_greatest (greatest : number.value = 2147483647) :
    ¬ Takes number formalConvergents.1 formalConvergents.2 next := by
  intro takes
  have fits : Representable precision 2147483647 := by
    exact_mod_cast representable_natCast (show 2147483647 < 10 ^ precision by decide)
  have whole : number.floor.value = 2147483647 := by
    rw [value_floor, greatest]
    norm_num
  have product : 2147483647 ≤ number.floor.value * formalConvergents.2.numerator.value := by
    rw [whole]
    simp [formalConvergents]
  have reached :=
    le_multiplyAdd fits fits product (by simp [formalConvergents]) (next_eq_ok takes.made).1
  exact absurd takes.numerator_lt (not_lt.mpr reached)

theorem eq_formal_of_greatest {result : Convergent} (greatest : number.value = 2147483647)
    (found : approximate number = .ok result) : result = formalConvergents.2 := by
  let Kept (_ _ : Convergent) : Prop := False
  have kept : result = formalConvergents.2 ∨ ∃ before, Kept before result := by
    refine eq_or_exists_kept_of_approximate ?_ ?_ found
    · intro number older newer next kept
      exact kept.elim
    · intro next takes
      exact not_takes_of_greatest greatest takes
  rcases kept with formal | ⟨before, kept⟩
  · exact formal
  · exact kept.elim

theorem exists_price_of_approximate {text : String} {result : Convergent}
    (read : parse? text = some number)
    (one : 1 ≤ number.value) (below : number.value < 2147483647)
    (found : approximate number = .ok result) :
    ∃ price, parse text = .ok price := by
  obtain ⟨last, ⟨numerator, denominator⟩, settled⟩ := isSettled_of_approximate (by linarith) found
  have least := atLeast_one_of_approximate one below found
  have numeratorPositive : 1 ≤ last.newer.1 := by exact_mod_cast numerator.symm ▸ least.numerator
  have denominatorPositive : 1 ≤ last.newer.2 := by
    exact_mod_cast denominator.symm ▸ least.denominator
  obtain ⟨price, made, -⟩ :=
    ofConvergent_of_isFraction text ⟨numerator, denominator⟩ numeratorPositive
    settled.newerBelow.1 denominatorPositive settled.newerBelow.2
  exact ⟨price, (parse_of_approximate read found).trans made⟩

/-- One, a point, zeros and a one. -/
def faintLiteral (zeros : Nat) : Literal where
  sign := none
  whole := ['1']
  fraction := some (List.replicate zeros '0' ++ ['1'])
  newline := false
  wholeDigits := by decide
  fractionDigits := by
    rw [Option.getD_some, List.all_append, all_isDigit_zeros, Bool.true_and]
    decide
  someDigit := by simp

theorem value_faintLiteral (zeros : Nat) :
    (faintLiteral zeros).value = 1 + 10 ^ (-(zeros + 1 : Int)) := by
  have one : Literal.number ['1'] = 1 := by decide
  have whole : Literal.number (faintLiteral zeros).whole = 1 := one
  have fraction : Literal.number ((faintLiteral zeros).fraction.getD []) = 1 := by
    change Literal.number (List.replicate zeros '0' ++ ['1']) = 1
    rw [number_append _ (show ['1'].all isDigit = true by decide), number_zeros, zero_mul,
      zero_add, one]
  have length : ((faintLiteral zeros).fraction.getD []).length = zeros + 1 := by simp [faintLiteral]
  unfold Literal.value
  rw [whole, fraction, length, Nat.cast_one, one_div, zpow_neg]
  exact one_mul _

theorem faint_faintLiteral {zeros : Nat} (many : greatestExponent ≤ zeros)
    (few : zeros + 1 ≤ -leastExponent precision) : Faint (faintLiteral zeros).value := by
  have positive := tens_pos (-(zeros + 1 : Int))
  have small : (10 : ℚ) ^ (-(zeros + 1 : Int)) < 1 := zpow_lt_one_of_neg₀ (by norm_num) (by omega)
  have fract : Int.fract (faintLiteral zeros).value = 10 ^ (-(zeros + 1 : Int)) := by
    rw [value_faintLiteral, ← Int.cast_one, Int.fract_intCast_add,
      Int.fract_eq_self.mpr ⟨positive.le, small⟩]
  have above : leastUnit precision ≤ 10 ^ (-(zeros + 1 : Int)) := tens_le_tens (by omega)
  have tiny : (10 : ℚ) ^ (-(zeros + 1 : Int)) ≤ 10 ^ 26 * leastUnit precision := by
    rw [show precision = 26 + 2 from rfl, ten_pow_mul_leastUnit]
    exact tens_le_tens (by omega)
  have unit : 0 < leastUnit precision := leastUnit_pos
  unfold Faint
  rw [fract]
  constructor <;> linarith

/-- A text of a number from one up to the greatest part has a price, unless the number is that part,
or faint. -/
theorem exists_price_iff (literal : Literal) (one : 1 ≤ literal.value)
    (inRange : literal.value ≤ 2 ^ 31 - 1) :
    (∃ price, parse literal.text = .ok price) ↔ literal.value ≠ 2 ^ 31 - 1 ∧
      ¬ Faint literal.value := by
  obtain ⟨number, read, value⟩ := parse?_text literal
  rw [← value] at one inRange ⊢
  norm_num at inRange ⊢
  rcases inRange.lt_or_eq with below | greatest
  · rw [and_iff_right below.ne, ← exists_approximate_iff (by linarith) below]
    constructor
    · rintro ⟨price, parsed⟩
      obtain ⟨result, found, -⟩ := exists_convergent_of_parse read parsed
      exact ⟨result, found⟩
    · rintro ⟨result, found⟩
      exact exists_price_of_approximate read one below found
  · refine iff_of_false ?_ (fun accepted => accepted.1 greatest)
    rintro ⟨price, parsed⟩
    obtain ⟨result, found, made⟩ := exists_convergent_of_parse read parsed
    obtain ⟨⟨-, denominatorNonzero⟩, -⟩ := toInt_of_ofConvergent made
    rw [eq_formal_of_greatest greatest found] at denominatorNonzero
    exact denominatorNonzero over_formal.2.denominator

/-- There is no price for the greatest part, and none for a faint number. -/
theorem exists_price_iff_greatest :
    (∃ literal : Literal, literal.text = "2147483647" ∧ literal.value = 2 ^ 31 - 1 ∧
      ¬ ∃ price, parse literal.text = .ok price) ∧
      ¬ ∃ price, parse (faintLiteral 999999).text = .ok price := by
  constructor
  · let literal : Literal :=
      { sign := none
        whole := ['2', '1', '4', '7', '4', '8', '3', '6', '4', '7']
        fraction := none
        newline := false
        wholeDigits := by decide +kernel
        fractionDigits := rfl
        someDigit := by simp }
    have whole : Literal.number literal.whole = 2147483647 := by decide +kernel
    have value : literal.value = 2 ^ 31 - 1 := by
      unfold Literal.value
      rw [whole]
      change 1 * (((2147483647 : Nat) : ℚ) + ((0 : Nat) : ℚ) / 10 ^ 0) = _
      norm_num
    have accepted := exists_price_iff literal (by rw [value]; norm_num) value.le
    exact ⟨literal, by decide +kernel, value, fun found => (accepted.mp found).1 value⟩
  · have faint : Faint (faintLiteral 999999).value := faint_faintLiteral (by decide) (by decide)
    have small : (10 : ℚ) ^ (-((999999 : Nat) + 1 : Int)) ≤ 1 :=
      zpow_le_one_of_nonpos₀ (by norm_num) (by decide)
    have positive := tens_pos (-((999999 : Nat) + 1 : Int))
    have value := value_faintLiteral 999999
    have accepted := exists_price_iff (faintLiteral 999999) (by linarith) (by linarith)
    exact fun found => (accepted.mp found).2 faint

end LedgerWire.Price
