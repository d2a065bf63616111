import Mathlib.Algebra.Order.Field.Rat
import Mathlib.Data.Rat.Lemmas
import Mathlib.Tactic.Linarith
import LedgerWire.Price

/-!
Contract: the lowest terms of a price. They are those of the number that it denotes, so prices of
one number have the same lowest terms and prices of different numbers have different ones. The parts
of a price have 32 bits, and the opposite of the least such number has one more: a fraction in which
nothing cancels, with a negative denominator and this number for a part, has no lowest terms that
are a price.

Owns:
- `Price.value`, the number that a price denotes;
- `Price.Unreducible`, the prices without lowest terms, and that each of these stands alone for its
  number;
- the lowest terms of every other price.

Does not own: prices with denominator zero, which denote nothing.
-/

namespace LedgerWire.Price

open Wire

/-- The number that a price denotes. -/
def value (price : Price) : ℚ := price.numerator / price.denominator

/-- Whether nothing cancels in a price, its denominator is negative, and one of its parts has no
opposite. -/
def Unreducible (price : Price) : Prop :=
  price.denominator < 0 ∧ Int.gcd price.numerator price.denominator = 1 ∧
    (price.numerator = Integer.int32.least ∨ price.denominator = Integer.int32.least)

instance (price : Price) : Decidable price.Unreducible := inferInstanceAs (Decidable (_ ∧ _))

section Factor

variable {price other : Price} {factor : Int}

/-! ### What cancels -/

/-- Whether the parts of a price are this multiple of the numerator and denominator of its
number. -/
structure CancelledBy (price : Price) (factor : Int) : Prop where
  nonzero : factor ≠ 0
  numerator : price.numerator = factor * price.value.num
  denominator : price.denominator = factor * price.value.den

theorem exists_cancelledBy (nonzero : price.denominator ≠ 0) :
    ∃ factor, price.CancelledBy factor := by
  rcases Rat.exists_eq_mul_div_num_and_eq_mul_div_den price.numerator nonzero with
    ⟨factor, numerator, denominator⟩
  refine ⟨factor, ?_, numerator, denominator⟩
  rintro rfl
  rw [zero_mul] at denominator
  exact nonzero denominator

theorem CancelledBy.gcd_eq (cancelled : price.CancelledBy factor) :
    Int.gcd price.numerator price.denominator = factor.natAbs := by
  have lowest : Int.gcd price.value.num price.value.den = 1 := price.value.reduced
  rw [cancelled.numerator, cancelled.denominator, Int.gcd_mul_left, lowest, mul_one]

theorem CancelledBy.denominator_neg_iff (cancelled : price.CancelledBy factor) :
    price.denominator < 0 ↔ factor < 0 := by
  have positive : (0 : Int) < price.value.den := by exact_mod_cast price.value.den_pos
  rw [cancelled.denominator, mul_neg_iff]
  omega

/-- Reducing a price is putting its number into lowest terms. -/
theorem reduced_eq_make (nonzero : price.denominator ≠ 0) :
    price.reduced = make price.value.num price.value.den := by
  rcases exists_cancelledBy nonzero with ⟨factor, cancelled⟩
  have signed :
      (if price.denominator < 0 then -(Int.gcd price.numerator price.denominator : Int)
        else Int.gcd price.numerator price.denominator) = factor := by
    rw [cancelled.gcd_eq]
    split_ifs with negative
    · have := cancelled.denominator_neg_iff.mp negative
      omega
    · have := mt cancelled.denominator_neg_iff.mpr negative
      omega
  unfold reduced
  rw [if_neg nonzero]
  simp only [signed]
  rw [cancelled.numerator, cancelled.denominator, Int.mul_ediv_cancel_left _ cancelled.nonzero,
    Int.mul_ediv_cancel_left _ cancelled.nonzero]

/-! ### Which lowest terms are in range -/

theorem fits_of_natAbs_le {n : Int} (small : n.natAbs ≤ 2 ^ 30) : Integer.int32.Fits n := by
  simp only [Integer.Fits, Integer.least, Integer.greatest]
  omega

theorem natAbs_le_of_fits {n : Int} (fits : Integer.int32.Fits n) : n.natAbs ≤ 2 ^ 31 := by
  simp only [Integer.Fits, Integer.least, Integer.greatest] at fits
  omega

/-- What more than the sign cancels from halves the size at least. -/
theorem fits_of_multiple {n : Int} (fits : Integer.int32.Fits (factor * n))
    (several : 2 ≤ factor.natAbs) :
    Integer.int32.Fits n := by
  have size := natAbs_le_of_fits fits
  rw [Int.natAbs_mul] at size
  have double : 2 * n.natAbs ≤ factor.natAbs * n.natAbs := Nat.mul_le_mul_right _ several
  exact fits_of_natAbs_le (by omega)

theorem neg_fits_iff {n : Int} (fits : Integer.int32.Fits n) :
    Integer.int32.Fits (-n) ↔ n ≠ Integer.int32.least := by
  simp only [Integer.Fits, Integer.least, Integer.greatest] at fits ⊢
  omega

theorem CancelledBy.lowest_of_neg (cancelled : price.CancelledBy (-1)) :
    price.value.num = -price.numerator ∧ (price.value.den : Int) = -price.denominator := by
  have numerator := cancelled.numerator
  have denominator := cancelled.denominator
  omega

theorem CancelledBy.factor_of_unreducible (cancelled : price.CancelledBy factor)
    (unreducible : price.Unreducible) :
    factor = -1 := by
  have negative := cancelled.denominator_neg_iff.mp unreducible.1
  have size := unreducible.2.1
  rw [cancelled.gcd_eq] at size
  omega

/-- The lowest terms are in range unless the price is unreducible. -/
theorem fits_lowest (nonzero : price.denominator ≠ 0) (reducible : ¬ price.Unreducible) :
    Integer.int32.Fits price.value.num ∧ Integer.int32.Fits price.value.den := by
  rcases exists_cancelledBy nonzero with ⟨factor, cancelled⟩
  have numeratorFits := price.numeratorFits
  have denominatorFits := price.denominatorFits
  rcases (by have := cancelled.nonzero; omega : factor = 1 ∨ factor = -1 ∨ 2 ≤ factor.natAbs) with
    rfl | rfl | several
  · rw [cancelled.numerator, one_mul] at numeratorFits
    rw [cancelled.denominator, one_mul] at denominatorFits
    exact ⟨numeratorFits, denominatorFits⟩
  · rcases cancelled.lowest_of_neg with ⟨numerator, denominator⟩
    rw [numerator, denominator, neg_fits_iff numeratorFits, neg_fits_iff denominatorFits, ← not_or]
    intro least
    exact reducible ⟨cancelled.denominator_neg_iff.mpr (by decide), cancelled.gcd_eq, least⟩
  · rw [cancelled.numerator] at numeratorFits
    rw [cancelled.denominator] at denominatorFits
    exact ⟨fits_of_multiple numeratorFits several, fits_of_multiple denominatorFits several⟩

/-! ### Reducing -/

theorem exists_reduced (nonzero : price.denominator ≠ 0) (reducible : ¬ price.Unreducible) :
    ∃ lowest, price.reduced = .ok lowest ∧ lowest.numerator = price.value.num ∧
      lowest.denominator = price.value.den := by
  rcases fits_lowest nonzero reducible with ⟨numeratorFits, denominatorFits⟩
  rw [reduced_eq_make nonzero]
  unfold make
  rw [dif_pos numeratorFits, dif_pos denominatorFits]
  exact ⟨_, rfl, rfl, rfl⟩

theorem value_of_lowest {lowest : Price} (numerator : lowest.numerator = price.value.num)
    (denominator : lowest.denominator = price.value.den) : lowest.value = price.value := by
  unfold value at numerator denominator ⊢
  rw [numerator, denominator, Int.cast_natCast, Rat.num_div_den]

theorem reduced_congr (nonzero : price.denominator ≠ 0) (otherNonzero : other.denominator ≠ 0)
    (same : price.value = other.value) : price.reduced = other.reduced := by
  rw [reduced_eq_make nonzero, reduced_eq_make otherNonzero, same]

theorem outOfRange_turned :
    outOfRange (2 ^ 31) = Failure.xdr "price component out of int32 range: 2147483648" := by
  decide +kernel

theorem reduced_of_unreducible (unreducible : price.Unreducible) :
    price.reduced = .error (Failure.xdr "price component out of int32 range: 2147483648") := by
  have nonzero : price.denominator ≠ 0 := unreducible.1.ne
  rcases exists_cancelledBy nonzero with ⟨factor, cancelled⟩
  obtain rfl := cancelled.factor_of_unreducible unreducible
  rcases cancelled.lowest_of_neg with ⟨numerator, denominator⟩
  rw [reduced_eq_make nonzero, numerator, denominator, ← outOfRange_turned]
  unfold make
  by_cases least : price.numerator = Integer.int32.least
  · rw [dif_neg (mt (neg_fits_iff price.numeratorFits).mp (not_not.mpr least)), least]
    rfl
  · have leastDenominator := unreducible.2.2.resolve_left least
    rw [dif_pos ((neg_fits_iff price.numeratorFits).mpr least),
      dif_neg (mt (neg_fits_iff price.denominatorFits).mp (not_not.mpr leastDenominator)),
      leastDenominator]
    rfl

/-- What is reduced keeps its number. -/
theorem value_of_reduced {lowest : Price} (nonzero : price.denominator ≠ 0)
    (reduced : price.reduced = .ok lowest) :
    lowest.value = price.value := by
  by_cases unreducible : price.Unreducible
  · rw [reduced_of_unreducible unreducible] at reduced
    cases reduced
  · rcases exists_reduced nonzero unreducible with ⟨found, foundReduced, numerator, denominator⟩
    obtain rfl := Except.ok.inj (foundReduced.symm.trans reduced)
    exact value_of_lowest numerator denominator

theorem eq_of_parts (numerator : other.numerator = price.numerator)
    (denominator : other.denominator = price.denominator) :
    other = price := by
  cases other
  cases price
  cases numerator
  cases denominator
  rfl

/-- Another price of the number of an unreducible one would be a multiple of it, and out of
range. -/
theorem eq_of_unreducible (unreducible : price.Unreducible) (otherNonzero : other.denominator ≠ 0)
    (same : price.value = other.value) : other = price := by
  rcases exists_cancelledBy unreducible.1.ne with ⟨factor, cancelled⟩
  obtain rfl := cancelled.factor_of_unreducible unreducible
  rcases cancelled.lowest_of_neg with ⟨numerator, denominator⟩
  rcases exists_cancelledBy otherNonzero with ⟨otherFactor, otherCancelled⟩
  have otherNumerator := otherCancelled.numerator
  have otherDenominator := otherCancelled.denominator
  rw [← same] at otherNumerator otherDenominator
  rw [numerator] at otherNumerator
  rw [denominator] at otherDenominator
  have turned : otherFactor = -1 := by
    have factorNonzero := otherCancelled.nonzero
    have numeratorFits := other.numeratorFits
    have denominatorFits := other.denominatorFits
    simp only [Integer.Fits, Integer.least, Integer.greatest] at numeratorFits denominatorFits
    rcases unreducible.2.2 with least | least
    · rw [least, Integer.least] at otherNumerator
      omega
    · rw [least, Integer.least] at otherDenominator
      omega
  rw [turned] at otherNumerator otherDenominator
  exact eq_of_parts (by omega) (by omega)

end Factor

/-- A price is put into lowest terms: the price of the same number with a positive denominator in
which nothing more cancels. Just the prices of that number have these lowest terms. Only where the
sign of the denominator turns the least 32-bit number is there no such price, nor any other one of
that number. -/
theorem reduced_lowestTerms
    (price other : Price)
    (nonzero : price.denominator ≠ 0)
    (otherNonzero : other.denominator ≠ 0) :
    if price.Unreducible then
      price.reduced = .error (Failure.xdr "price component out of int32 range: 2147483648") ∧
        (price.value = other.value ↔ other = price)
    else
      ∃ lowest, price.reduced = .ok lowest ∧ lowest.value = price.value ∧ 0 < lowest.denominator ∧
        Int.gcd lowest.numerator lowest.denominator = 1 ∧ lowest.reduced = .ok lowest ∧
        (price.value = other.value ↔ other.reduced = .ok lowest) := by
  split_ifs with unreducible
  · refine ⟨reduced_of_unreducible unreducible, eq_of_unreducible unreducible otherNonzero, ?_⟩
    rintro rfl
    rfl
  · rcases exists_reduced nonzero unreducible with ⟨lowest, reduced, numerator, denominator⟩
    have value := value_of_lowest numerator denominator
    have positive : 0 < lowest.denominator := by
      rw [denominator]
      exact_mod_cast price.value.den_pos
    have coprime : Int.gcd lowest.numerator lowest.denominator = 1 := by
      rw [numerator, denominator]
      exact price.value.reduced
    refine ⟨lowest, reduced, value, positive, coprime, ?_, ?_⟩
    · rw [reduced_congr positive.ne' nonzero value, reduced]
    · constructor
      · intro same
        rw [← reduced_congr nonzero otherNonzero same, reduced]
      · intro otherReduced
        rw [← value, value_of_reduced otherNonzero otherReduced]

/-- The least number over minus two, and half of it over minus one: the lowest terms are the
same. -/
theorem reduced_lowestTerms_leastHalved :
    let price : Price := ⟨-2 ^ 31, -2, by decide, by decide⟩
    let other : Price := ⟨-2 ^ 30, -1, by decide, by decide⟩
    let lowest : Price := ⟨2 ^ 30, 1, by decide, by decide⟩
    (price.denominator ≠ 0 ∧ other.denominator ≠ 0 ∧ ¬ price.Unreducible) ∧
      price.reduced = .ok lowest ∧
      other.reduced = .ok lowest ∧ lowest.reduced = .ok lowest ∧ price.value = other.value := by
  intro price other lowest
  have priceReduced : price.reduced = .ok lowest := by decide
  have otherReduced : other.reduced = .ok lowest := by decide
  have all := reduced_lowestTerms price other (by decide) (by decide)
  rw [if_neg (by decide)] at all
  rcases all with ⟨found, reduced, -, -, -, again, sameIff⟩
  obtain rfl := Except.ok.inj (reduced.symm.trans priceReduced)
  exact ⟨by decide, reduced, otherReduced, again, sameIff.mpr otherReduced⟩

/-- Not every price with a denominator has lowest terms: one over the least number has none. -/
theorem not_reduced_leastDenominator :
    ¬ ∀ price : Price, price.denominator ≠ 0 → ∃ lowest, price.reduced = .ok lowest := by
  intro always
  let price : Price := ⟨1, -2 ^ 31, by decide, by decide⟩
  rcases always price (by decide) with ⟨lowest, reduced⟩
  rw [reduced_of_unreducible (by decide : price.Unreducible)] at reduced
  cases reduced

end LedgerWire.Price
