import Mathlib.RingTheory.Coprime.Lemmas
import LedgerWire.Proofs.Decimal.Text
import LedgerWire.Proofs.Price.Bounds
import LedgerWire.Proofs.Price.Nearest

/-!
Contract: the prices that are found are well formed, whatever the sign of the number and however
many digits it has. Two convergents in a row have the determinant one or minus one as long as they
are worked out exactly, and they are unless a numerator is far below zero. From there it stays far
below, and there is no price.

Owns:
- `Price.Unimodular` and `Price.Low`, of which every pass keeps one;
- `Price.run_and_wellFormed`: the number of passes, and the form of the price.

Does not own: how close a price is to the number.
-/

namespace LedgerWire.Price

open Decimal

variable {number : Decimal} {older newer next : Convergent}

/-! ### Exact numerators -/

theorem representable_intCast {n : Int} (few : |n| < 10 ^ 28) : Representable precision n := by
  refine ⟨n, 0, few, ?_, by simp⟩
  unfold leastExponent greatestExponent precision
  omega

/-- A product of integers and a sum of such are not rounded, if they are not far from zero. -/
theorem multiplyAdd_eq {whole part older result : Decimal} {a n k : Int}
    (wholeValue : whole.value = a)
    (partValue : part.value = n) (olderValue : older.value = k) (productFew : |a * n| < 10 ^ 28)
    (sumFew : |a * n + k| < 10 ^ 28)
    (computed : (whole.mul precision part >>= fun product => product.add precision older) =
      .ok result) :
    result.value = (a * n + k : Int) := by
  have product : whole.value * part.value = ((a * n : Int) : ℚ) := by
    rw [wholeValue, partValue, Int.cast_mul]
  have sum : ((a * n : Int) : ℚ) + older.value = ((a * n + k : Int) : ℚ) := by
    rw [olderValue, Int.cast_add]
  have productFits := representable_intCast productFew
  have sumFits := representable_intCast sumFew
  exact le_antisymm (multiplyAdd_le productFits sumFits product.le sum.le computed)
    (le_multiplyAdd productFits sumFits product.ge sum.ge computed)

theorem representable_multiplyAdd {whole part older result : Decimal}
    (computed : (whole.mul precision part >>= fun product => product.add precision older) =
      .ok result) :
    Representable precision result.value := by
  obtain ⟨product, -, added⟩ := Outcome.bind_eq_ok_iff.mp computed
  exact (rounded_of_add one_le_precision added).representable

/-! ### Fractions in lowest terms, and low ones -/

/-- Whether a convergent is this fraction of an integer and a natural number, of which the
denominator is in range and the numerator not far below it. -/
structure Convergent.IsRatio (convergent : Convergent) (n : Int) (d : Nat) :
    Prop extends convergent.Over d where
  numerator : convergent.numerator.value = n
  n_gt : -10 ^ 10 < n
  n_lt : n < 2147483647

/-- Whether two convergents are fractions whose cross products differ by one. -/
def Unimodular (older newer : Convergent) : Prop :=
  ∃ (k n : Int) (l d : Nat), older.IsRatio k l ∧ newer.IsRatio n d ∧ |k * d - n * l| = 1

/-- Whether a convergent has a numerator below the range, and still has when the one before it is
added. -/
structure Low (older newer : Convergent) : Prop where
  representable : Representable precision newer.numerator.value
  low : newer.numerator.value ≤ -2147483649
  lower : newer.numerator.value + older.numerator.value ≤ -2147483649

theorem representable_low : Representable precision (-2147483649) := by
  exact_mod_cast representable_intCast (show |(-2147483649 : Int)| < 10 ^ 28 by norm_num)

/-- A numerator far below zero is low, whatever the one before it. -/
theorem Takes.low_of_le (takes : Takes number older newer next)
    (far : next.numerator.value ≤ -10 ^ 10)
    (before : newer.numerator.value < 2147483647) : Low newer next where
  representable := representable_multiplyAdd (next_eq_ok takes.made).1
  low := by linarith
  lower := by linarith

/-! ### The first convergent -/

theorem isRatio_formal : formalConvergents.2.IsRatio 1 0 where
  toOver := over_formal.2
  numerator := by simp [formalConvergents]
  n_gt := by norm_num
  n_lt := by norm_num

theorem Takes.low_first (takes : Takes number formalConvergents.1 formalConvergents.2 next)
    (far : ⌊number.value⌋ ≤ -10 ^ 10) : Low formalConvergents.2 next := by
  have one : formalConvergents.2.numerator.value = (1 : Int) := isRatio_formal.numerator
  have whole : number.floor.value ≤ ((-10 ^ 10 : Int) : ℚ) := by
    rw [value_floor]
    exact_mod_cast far
  have fits := representable_intCast (show |(-10 ^ 10 : Int)| < 10 ^ 28 by norm_num)
  have numerator : next.numerator.value ≤ ((-10 ^ 10 : Int) : ℚ) := by
    refine multiplyAdd_le fits fits ?_ ?_ (next_eq_ok takes.made).1
    · rwa [one, Int.cast_one, mul_one]
    · simp [formalConvergents]
  apply takes.low_of_le
  · exact_mod_cast numerator
  · rw [one]
    norm_num

theorem Takes.isRatio_first (takes : Takes number formalConvergents.1 formalConvergents.2 next)
    (near : -10 ^ 10 < ⌊number.value⌋) : next.IsRatio ⌊number.value⌋ 1 := by
  have zero : formalConvergents.1.numerator.value = (0 : Int) := by simp [formalConvergents]
  have small : |⌊number.value⌋ * 1| < 10 ^ 28 := by
    have below : ⌊number.value⌋ ≤ 2147483647 := by
      exact_mod_cast (Int.floor_le number.value).trans takes.below
    rw [mul_one, abs_lt]
    constructor <;> linarith
  have numerator :=
    multiplyAdd_eq (value_floor number) isRatio_formal.numerator zero small (by rwa [add_zero])
    (next_eq_ok takes.made).1
  rw [mul_one, add_zero] at numerator
  have numeratorLt := takes.numerator_lt
  rw [numerator] at numeratorLt
  exact {
    toOver := takes.over_one
    numerator := numerator
    n_gt := near
    n_lt := by exact_mod_cast numeratorLt }

theorem Takes.unimodular_or_low_first
    (takes : Takes number formalConvergents.1 formalConvergents.2 next) :
    Unimodular formalConvergents.2 next ∨ Low formalConvergents.2 next := by
  by_cases far : ⌊number.value⌋ ≤ -10 ^ 10
  · exact Or.inr (takes.low_first far)
  · exact Or.inl ⟨1, ⌊number.value⌋, 0, 1, isRatio_formal,
      takes.isRatio_first (not_le.mp far), by simp⟩

/-! ### Further convergents -/

/-- A low numerator is taken at least once, so the next one is low too. -/
theorem Takes.low (takes : Takes number older newer next) (low : Low older newer)
    (one : 1 ≤ number.value) :
    Low newer next := by
  have taken := one_le_floor one
  have product : number.floor.value * newer.numerator.value ≤ newer.numerator.value := by
    have := mul_le_mul_of_nonpos_right taken (show newer.numerator.value ≤ 0 by linarith [low.low])
    linarith
  have computed := (next_eq_ok takes.made).1
  have nextLow : next.numerator.value ≤ -2147483649 :=
    multiplyAdd_le low.representable representable_low product low.lower computed
  exact {
    representable := representable_multiplyAdd computed
    low := nextLow
    lower := by linarith [low.low] }

/-- The numerator is worked out exactly if the two before it are not far below zero. -/
theorem Takes.numerator_eq {k n : Int} {l d : Nat} (takes : Takes number older newer next)
    (olderRatio : older.IsRatio k l) (newerRatio : newer.IsRatio n d) {whole : Nat}
    (wholeValue : number.floor.value = whole) (wholeLe : whole ≤ 2147483647) :
    next.numerator.value = (whole * n + k : Int) := by
  have productSmall : |(whole : Int) * n| ≤ 2147483647 * 10 ^ 10 := by
    have size : |n| ≤ 10 ^ 10 := abs_le.mpr ⟨newerRatio.n_gt.le, by linarith [newerRatio.n_lt]⟩
    rw [abs_mul, Nat.abs_cast]
    exact mul_le_mul (by exact_mod_cast wholeLe) size (abs_nonneg n) (by norm_num)
  have sumSmall : |(whole : Int) * n + k| ≤ 2147483647 * 10 ^ 10 + 10 ^ 10 := by
    have size : |k| ≤ 10 ^ 10 := abs_le.mpr ⟨olderRatio.n_gt.le, by linarith [olderRatio.n_lt]⟩
    exact (abs_add_le _ _).trans (add_le_add productSmall size)
  exact multiplyAdd_eq wholeValue newerRatio.numerator olderRatio.numerator
    (productSmall.trans_lt (by norm_num))
    (sumSmall.trans_lt (by norm_num)) (next_eq_ok takes.made).1

theorem Takes.unimodular_or_low (takes : Takes number older newer next)
    (unimodular : Unimodular older newer)
    (one : 1 ≤ number.value) : Unimodular newer next ∨ Low newer next := by
  obtain ⟨k, n, l, d, olderRatio, newerRatio, determinant⟩ := unimodular
  obtain ⟨whole, wholeValue, -, wholeLe, nextOver⟩ :=
    takes.exists_over olderRatio.toOver newerRatio.toOver one
  have numerator := takes.numerator_eq olderRatio newerRatio wholeValue wholeLe
  by_cases far : (whole : Int) * n + k ≤ -10 ^ 10
  · right
    apply takes.low_of_le
    · rw [numerator]
      exact_mod_cast far
    · rw [newerRatio.numerator]
      exact_mod_cast newerRatio.n_lt
  · left
    have numeratorLt := takes.numerator_lt
    rw [numerator] at numeratorLt
    have ratio : next.IsRatio (whole * n + k) (whole * d + l) := {
      toOver := nextOver
      numerator := numerator
      n_gt := not_le.mp far
      n_lt := by exact_mod_cast numeratorLt }
    refine ⟨n, whole * n + k, d, whole * d + l, newerRatio, ratio, ?_⟩
    push_cast
    rw [show n * (whole * d + l) - (whole * n + k) * d = -(k * d - n * l) by ring, abs_neg]
    exact determinant

/-! ### The price -/

/-- The convergent found for a number is the formal one, or a fraction in lowest terms, or low. -/
theorem approximate_unimodular_or_low {result : Convergent}
    (found : approximate number = .ok result) :
    result = formalConvergents.2 ∨ ∃ before, Unimodular before result ∨ Low before result := by
  let Kept (older newer : Convergent) : Prop := Unimodular older newer ∨ Low older newer
  have kept : result = formalConvergents.2 ∨ ∃ before, Kept before result := by
    refine eq_or_exists_kept_of_approximate ?_ ?_ found
    · rintro number older newer next (unimodular | low) one takes
      · exact takes.unimodular_or_low unimodular one
      · exact Or.inr (takes.low low one)
    · intro next takes
      exact takes.unimodular_or_low_first
  exact kept

theorem gcd_eq_one_of_unimodular {k n : Int} {l d : Nat} (determinant : |k * d - n * l| = 1) :
    Int.gcd n d = 1 := by
  rw [← Int.isCoprime_iff_gcd_eq_one]
  rcases (abs_eq zero_le_one).mp determinant with positive | negative
  · exact ⟨-l, k, by linarith⟩
  · exact ⟨l, -k, by linarith⟩

/-- A numerator that is low does not fit. -/
theorem not_low_of_ofConvergent {text : String} {convergent before : Convergent} {price : Price}
    (made : ofConvergent text convergent = .ok price) : ¬ Low before convergent := by
  intro low
  obtain ⟨-, numerator, -⟩ := toInt_of_ofConvergent made
  have size : 2147483649 ≤ price.numerator.natAbs := by
    rw [numerator, natAbs_toInt, Nat.le_floor_iff (abs_nonneg _),
      abs_of_nonpos (by linarith [low.low])]
    push_cast
    linarith [low.low]
  have fits := price.numeratorFits
  change -2147483648 ≤ price.numerator ∧ price.numerator ≤ 2147483647 at fits
  omega

theorem wellFormed_of_parse {text : String} {price : Price}
    (read : Decimal.parse? text = some number)
    (parsed : parse text = .ok price) :
    price.numerator ≠ 0 ∧ 1 ≤ price.denominator ∧ -2 ^ 31 ≤ price.numerator ∧
      price.numerator < 2 ^ 31 - 1 ∧
      price.denominator < 2 ^ 31 - 1 ∧ Int.gcd price.numerator price.denominator = 1 := by
  obtain ⟨convergent, found, made⟩ := exists_convergent_of_parse read parsed
  obtain ⟨⟨numeratorNonzero, denominatorNonzero⟩, numerator, denominator⟩ :=
    toInt_of_ofConvergent made
  rcases approximate_unimodular_or_low found with rfl |
    ⟨before, ⟨k, n, l, d, -, ratio, determinant⟩ | low⟩
  · exact absurd over_formal.2.denominator denominatorNonzero
  · have numeratorIs : price.numerator = n := numerator.trans (toInt_eq_of_value ratio.numerator)
    have denominatorIs : price.denominator = d :=
      denominator.trans (toInt_eq_of_value (by exact_mod_cast ratio.denominator))
    rw [ratio.numerator, Int.cast_ne_zero] at numeratorNonzero
    rw [ratio.denominator, Nat.cast_ne_zero] at denominatorNonzero
    have denominatorPositive : 1 ≤ (d : Int) := by
      exact_mod_cast Nat.pos_of_ne_zero denominatorNonzero
    have denominatorLt : (d : Int) < 2147483647 := by exact_mod_cast ratio.part_lt
    have numeratorGe : -2147483648 ≤ price.numerator := price.numeratorFits.1
    rw [numeratorIs] at numeratorGe
    rw [numeratorIs, denominatorIs]
    exact ⟨numeratorNonzero, denominatorPositive, numeratorGe, ratio.n_lt, denominatorLt,
      gcd_eq_one_of_unimodular determinant⟩
  · exact absurd low (not_low_of_ofConvergent made)

/-- For every text of a decimal number the expansion ends within forty-seven passes, and a price
that is found is a fraction in lowest terms with a numerator that is not zero and a positive
denominator, both in range. -/
theorem run_and_wellFormed (literal : Literal) :
    ∃ number, Decimal.parse? literal.text = some number ∧ number.value = literal.value ∧
      run 47 number formalConvergents.1 formalConvergents.2 = some (approximate number) ∧
      ∀ price, parse literal.text = .ok price →
        price.numerator ≠ 0 ∧ 1 ≤ price.denominator ∧ -2 ^ 31 ≤ price.numerator ∧
          price.numerator < 2 ^ 31 - 1 ∧ price.denominator < 2 ^ 31 - 1 ∧
          Int.gcd price.numerator price.denominator = 1 := by
  obtain ⟨number, read, value⟩ := parse?_text literal
  exact ⟨number, read, value, run_approximate number, fun price => wellFormed_of_parse read⟩

/-- The golden ratio takes all of the passes, and its price is two Fibonacci numbers. -/
theorem run_and_wellFormed_goldenRatio :
    ∃ (literal : Literal) (number : Decimal) (price : Price),
      literal.text = "0.61803398874989484820458683436563811772" ∧ parse literal.text = .ok price ∧
      price.numerator = Nat.fib 45 ∧ price.denominator = Nat.fib 46 ∧
      Int.gcd price.numerator price.denominator = 1 ∧ Decimal.parse? literal.text = some number ∧
      run 46 number formalConvergents.1 formalConvergents.2 = none ∧
      run 47 number formalConvergents.1 formalConvergents.2 = some (approximate number) := by
  let literal : Literal :=
    { sign := none
      whole := ['0']
      fraction := some "61803398874989484820458683436563811772".toList
      newline := false
      wholeDigits := by decide +kernel
      fractionDigits := by decide +kernel
      someDigit := by simp }
  have parsed : parse literal.text = .ok ⟨1134903170, 1836311903, by decide, by decide⟩ := by
    decide +kernel
  obtain ⟨number, read, -, ended, wellFormed⟩ := run_and_wellFormed literal
  obtain ⟨-, -, -, -, -, lowestTerms⟩ := wellFormed _ parsed
  have digits : Decimal.parse? literal.text =
      some ⟨false, 61803398874989484820458683436563811772, -38⟩ := by
    decide +kernel
  obtain rfl := Option.some.inj (read.symm.trans digits)
  refine ⟨literal, _, _, by decide +kernel, parsed, ?_, ?_, lowestTerms,
    read, by decide +kernel, ended⟩
  · norm_num
  · norm_num

end LedgerWire.Price
