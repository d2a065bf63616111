import Mathlib.Algebra.Order.Archimedean.Basic
import LedgerWire.Proofs.Decimal.Value

/-!
Contract: what is lost by rounding to a number of digits. The rounded number lies on the same side
of every number with so few digits as the exact one, so it is the exact one if that has few digits;
and it is off by less than one part in the last digit.

Owns:
- `Decimal.Representable`, the numbers that need no rounding in a precision;
- `Decimal.Rounded`, how a result may differ from the exact number, and that `round` and `finish`
  keep to it.

Does not own: the arithmetic operations.
-/

namespace LedgerWire.Decimal

/-! ### Quotients to the nearest integer -/

theorem divideHalfEven_error (n : Nat) {unit : Nat} (positive : 0 < unit) :
    |2 * ((divideHalfEven n unit : Int) * unit - n)| ≤ unit := by
  have parts : (unit * (n / unit : Nat) + (n % unit : Nat) : Int) = n := by
    exact_mod_cast Nat.div_add_mod n unit
  have rest : n % unit < unit := Nat.mod_lt n positive
  unfold divideHalfEven
  simp only [Bool.or_eq_true, Bool.and_eq_true, decide_eq_true_eq]
  rw [abs_le]
  split
  case isTrue up =>
    rw [Nat.cast_add, Nat.cast_one, add_mul, one_mul, mul_comm _ (unit : Int)]
    omega
  case isFalse down =>
    rw [mul_comm _ (unit : Int)]
    omega

theorem le_divideHalfEven {n unit : Nat} {multiple : Int} (positive : 0 < unit)
    (below : multiple * unit ≤ n) : multiple ≤ divideHalfEven n unit := by
  have error := (abs_le.mp (divideHalfEven_error n positive)).1
  by_contra above
  have next : ((divideHalfEven n unit : Int) + 1) * unit ≤ multiple * unit :=
    Int.mul_le_mul_of_nonneg_right (by omega) (by omega)
  rw [add_mul, one_mul] at next
  omega

theorem divideHalfEven_le {n unit : Nat} {multiple : Int} (positive : 0 < unit)
    (above : (n : Int) ≤ multiple * unit) : (divideHalfEven n unit : Int) ≤ multiple := by
  have error := (abs_le.mp (divideHalfEven_error n positive)).2
  by_contra below
  have next : (multiple + 1) * unit ≤ (divideHalfEven n unit : Int) * unit :=
    Int.mul_le_mul_of_nonneg_right (by omega) (by omega)
  rw [add_mul, one_mul] at next
  omega

/-! ### Numbers that need no rounding -/

/-- Whether a number has so few digits, none of them below the least exponent. -/
def Representable (precision : Nat) (x : ℚ) : Prop :=
  ∃ coefficient exponent : Int, |coefficient| < 10 ^ precision ∧
    leastExponent precision ≤ exponent ∧ x = coefficient * (10 : ℚ) ^ exponent

/-- How the result of an operation may differ from the exact number: it needs no more digits, and it
is not beyond any number that needs no rounding. -/
structure Rounded (precision : Nat) (exact rounded : ℚ) : Prop where
  representable : Representable precision rounded
  le_rounded {x : ℚ} : Representable precision x → x ≤ exact → x ≤ rounded
  rounded_le {x : ℚ} : Representable precision x → exact ≤ x → rounded ≤ x

variable {precision : Nat}

theorem Representable.neg {x : ℚ} (fits : Representable precision x) :
    Representable precision (-x) := by
  obtain ⟨coefficient, exponent, few, least, rfl⟩ := fits
  refine ⟨-coefficient, exponent, by rwa [abs_neg], least, ?_⟩
  push_cast
  ring

theorem representable_value {d : Decimal} (few : d.coefficient < 10 ^ precision)
    (least : leastExponent precision ≤ d.exponent) : Representable precision d.value := by
  refine ⟨d.signed, d.exponent, ?_, least, rfl⟩
  unfold signed
  cases d.negative with
  | false => simpa using (by exact_mod_cast few : (d.coefficient : Int) < 10 ^ precision)
  | true => simpa using (by exact_mod_cast few : (d.coefficient : Int) < 10 ^ precision)

theorem representable_natCast {n : Nat} (few : n < 10 ^ precision) : Representable precision n := by
  refine ⟨n, 0, ?_, ?_, by simp⟩
  · rw [Nat.abs_cast]
    exact_mod_cast few
  · unfold leastExponent greatestExponent
    omega

theorem representable_zero : Representable precision 0 := by
  exact_mod_cast representable_natCast (show 0 < 10 ^ precision by positivity)

theorem representable_tens (one : 1 ≤ precision) {exponent : Int}
    (least : leastExponent precision ≤ exponent) : Representable precision (10 ^ exponent) := by
  refine ⟨1, exponent, ?_, least, by simp⟩
  rw [abs_one]
  exact one_lt_pow₀ (by norm_num) (by omega)

theorem representable_of_le_pow (one : 1 ≤ precision) {coefficient : Nat} {exponent : Int}
    (few : coefficient ≤ 10 ^ precision) (least : leastExponent precision ≤ exponent) :
    Representable precision (coefficient * 10 ^ exponent) := by
  rcases Nat.lt_or_eq_of_le few with less | rfl
  · exact ⟨coefficient, exponent, by exact_mod_cast less, least, by push_cast; rfl⟩
  · -- one digit too many, but the number is a power of ten
    have carried :=
      representable_tens one (show leastExponent precision ≤ precision + exponent by omega)
    rw [zpow_add₀ (by norm_num), zpow_natCast] at carried
    exact_mod_cast carried

/-- Two neighbours that need no rounding are apart by less than a unit in the last digit. -/
theorem exists_neighbours (one : 1 ≤ precision) {x : ℚ}
    (large : (10 : ℚ) ^ (-greatestExponent) ≤ x) :
    ∃ low high, Representable precision low ∧ Representable precision high ∧ low ≤ x ∧ x ≤ high ∧
      high - low ≤ (10 : ℚ) ^ (1 - precision : Int) * x := by
  have positive : 0 < x := (tens_pos _).trans_le large
  -- the neighbours are the multiples of the last unit, which the place of the first digit tells
  obtain ⟨first, firstDigit, above⟩ := exists_mem_Ico_zpow positive (show (1 : ℚ) < 10 by norm_num)
  have firstLarge : -greatestExponent ≤ first :=
    Int.le_of_lt_add_one ((zpow_lt_zpow_iff_right₀ (by norm_num)).mp (large.trans_lt above))
  obtain ⟨last, rfl⟩ : ∃ last, first = precision - 1 + last := ⟨first - (precision - 1), by ring⟩
  have least : leastExponent precision ≤ last := by
    unfold leastExponent
    omega
  have unit := tens_pos last
  have below : x / 10 ^ last < ((10 ^ precision : Nat) : ℚ) := by
    rw [show precision - 1 + last + 1 = precision + last by ring, zpow_add₀ (by norm_num),
      zpow_natCast] at above
    rw [div_lt_iff₀ unit]
    exact_mod_cast above
  have digits : ⌊x / 10 ^ last⌋₊ < 10 ^ precision := (Nat.floor_lt (by positivity)).mpr below
  refine ⟨⌊x / 10 ^ last⌋₊ * 10 ^ last, (⌊x / 10 ^ last⌋₊ + 1 : Nat) * 10 ^ last,
    representable_of_le_pow one digits.le least,
    representable_of_le_pow one digits least, ?_, ?_, ?_⟩
  · exact (le_div_iff₀ unit).mp (Nat.floor_le (by positivity))
  · rw [← div_le_iff₀ unit]
    exact_mod_cast (Nat.lt_floor_add_one _).le
  · calc
      ((⌊x / 10 ^ last⌋₊ + 1 : Nat) : ℚ) * 10 ^ last - ⌊x / 10 ^ last⌋₊ * 10 ^ last =
        10 ^ last := by
        push_cast
        ring
      _ = 10 ^ (1 - precision : Int) * 10 ^ (precision - 1 + last) := by
        rw [← zpow_add₀ (by norm_num)]
        congr 1
        ring
      _ ≤ 10 ^ (1 - precision : Int) * x := mul_le_mul_of_nonneg_left firstDigit (tens_pos _).le

theorem representable_greatest (one : 1 ≤ precision) :
    Representable precision (10 ^ greatestExponent) :=
  representable_tens one (by unfold leastExponent greatestExponent; omega)

theorem Rounded.neg {exact rounded : ℚ} (holds : Rounded precision exact rounded) :
    Rounded precision (-exact) (-rounded) where
  representable := holds.representable.neg
  le_rounded fits below := le_neg.mp (holds.rounded_le fits.neg (le_neg.mp below))
  rounded_le fits above := neg_le.mp (holds.le_rounded fits.neg (neg_le.mp above))

theorem Rounded.abs_le_greatest {exact rounded : ℚ} (holds : Rounded precision exact rounded)
    (one : 1 ≤ precision)
    (bounded : |exact| ≤ 10 ^ greatestExponent) : |rounded| ≤ 10 ^ greatestExponent := by
  have greatest := representable_greatest one
  rw [abs_le] at bounded ⊢
  exact ⟨holds.le_rounded greatest.neg bounded.1, holds.rounded_le greatest bounded.2⟩

theorem Rounded.eq_of_representable {exact rounded : ℚ} (holds : Rounded precision exact rounded)
    (fits : Representable precision exact) : rounded = exact :=
  le_antisymm (holds.rounded_le fits le_rfl) (holds.le_rounded fits le_rfl)

theorem Rounded.error_of_nonnegative {exact rounded : ℚ} (one : 1 ≤ precision)
    (holds : Rounded precision exact rounded) (large : (10 : ℚ) ^ (-greatestExponent) ≤ exact) :
    |rounded - exact| ≤ (10 : ℚ) ^ (1 - precision : Int) * exact := by
  obtain ⟨low, high, lowFits, highFits, below, above, near⟩ := exists_neighbours one large
  have lower := holds.le_rounded lowFits below
  have upper := holds.rounded_le highFits above
  rw [abs_le]
  constructor <;> linarith

/-- Rounding takes away less than one part in the last digit, unless the number is too small to have
all its digits. -/
theorem Rounded.error {exact rounded : ℚ} (one : 1 ≤ precision)
    (holds : Rounded precision exact rounded)
    (large : (10 : ℚ) ^ (-greatestExponent) ≤ |exact|) :
    |rounded - exact| ≤ (10 : ℚ) ^ (1 - precision : Int) * |exact| := by
  rcases le_total 0 exact with nonnegative | negative
  · rw [abs_of_nonneg nonnegative] at large ⊢
    exact holds.error_of_nonnegative one large
  · rw [abs_of_nonpos negative] at large ⊢
    have opposite := holds.neg.error_of_nonnegative one large
    rwa [neg_sub_neg, abs_sub_comm] at opposite

/-! ### Rounding -/

/-- How many of the last digits rounding takes away. -/
def excess (precision : Nat) (d : Decimal) : Nat :=
  max (digitCount d.coefficient - precision) (leastExponent precision - d.exponent).toNat

/-- The exponent of the digits that remain. -/
def roundedExponent (precision : Nat) (d : Decimal) : Int := d.exponent + excess precision d

theorem value_mk {negative : Bool} (sign : negative = false) (coefficient : Nat) (exponent : Int) :
    (mk negative coefficient exponent).value = coefficient * (10 : ℚ) ^ exponent := by
  unfold value signed
  simp [sign]

theorem value_of_nonnegative {d : Decimal} (sign : d.negative = false) :
    d.value = d.coefficient * (10 : ℚ) ^ d.exponent := value_mk sign _ _

theorem tens_roundedExponent (d : Decimal) :
    (10 : ℚ) ^ roundedExponent precision d =
      ((10 ^ excess precision d : Nat) : ℚ) * 10 ^ d.exponent := by
  rw [tens_eq (show d.exponent ≤ roundedExponent precision d by unfold roundedExponent; omega)]
  unfold roundedExponent
  rw [add_sub_cancel_left, Int.toNat_natCast]

theorem leastExponent_le_roundedExponent (d : Decimal) :
    leastExponent precision ≤ roundedExponent precision d := by
  unfold roundedExponent excess
  omega

theorem divideHalfEven_excess_le (d : Decimal) :
    divideHalfEven d.coefficient (10 ^ excess precision d) ≤ 10 ^ precision := by
  have few : d.coefficient ≤ 10 ^ precision * 10 ^ excess precision d := by
    rw [← Nat.pow_add]
    refine (lt_pow_digitCount d.coefficient).le.trans (Nat.pow_le_pow_right (by omega) ?_)
    unfold excess
    omega
  have above : (d.coefficient : Int) ≤
      (10 ^ precision : Nat) * (10 ^ excess precision d : Nat) := by
    exact_mod_cast few
  exact_mod_cast divideHalfEven_le (by positivity) above

theorem round_eq (d : Decimal) :
    round precision d =
      let rounded := divideHalfEven d.coefficient (10 ^ excess precision d)
      if excess precision d = 0 then d
      else if digitCount rounded ≤ precision then ⟨d.negative, rounded, roundedExponent precision d⟩
      else ⟨d.negative, rounded / 10, roundedExponent precision d + 1⟩ := rfl

theorem round_of_kept {d : Decimal} (kept : excess precision d = 0) : round precision d = d := by
  rw [round_eq]
  exact if_pos kept

theorem value_round {d : Decimal} (one : 1 ≤ precision) (sign : d.negative = false) :
    (round precision d).value =
      divideHalfEven d.coefficient (10 ^ excess precision d) *
      (10 : ℚ) ^ roundedExponent precision d := by
  have most : divideHalfEven d.coefficient (10 ^ excess precision d) ≤ 10 ^ precision :=
    divideHalfEven_excess_le d
  by_cases kept : excess precision d = 0
  · rw [round_of_kept kept, value_of_nonnegative sign]
    unfold roundedExponent
    simp [kept, divideHalfEven, Nat.mod_one]
  · rw [round_eq]
    simp only [if_neg kept, digitCount_le_iff one]
    by_cases fits : divideHalfEven d.coefficient (10 ^ excess precision d) < 10 ^ precision
    · rw [if_pos fits, value_mk sign]
    · -- a coefficient of nines has become a power of ten
      have power : divideHalfEven d.coefficient (10 ^ excess precision d) =
          10 ^ (precision - 1) * 10 := by
        rw [← Nat.pow_succ, Nat.succ_eq_add_one, Nat.sub_add_cancel one]
        exact le_antisymm most (Nat.le_of_not_lt fits)
      rw [if_neg fits, value_mk sign, power, Nat.mul_div_cancel _ (by omega),
        zpow_add_one₀ (by norm_num)]
      push_cast
      ring

theorem coefficient_round_lt (one : 1 ≤ precision) (d : Decimal) :
    (round precision d).coefficient < 10 ^ precision := by
  rw [round_eq]
  simp only
  split_ifs with kept fits
  · rw [← digitCount_le_iff one]
    unfold excess at kept
    omega
  · exact (digitCount_le_iff one).mp fits
  · -- the carry leaves one digit too many, which is a zero
    show divideHalfEven d.coefficient (10 ^ excess precision d) / 10 < 10 ^ precision
    have : divideHalfEven d.coefficient (10 ^ excess precision d) ≤ 10 ^ precision :=
      divideHalfEven_excess_le d
    have : 0 < 10 ^ precision := by positivity
    omega

theorem round_negate (d : Decimal) : round precision d.negate = (round precision d).negate := by
  unfold round negate withSign
  simp only
  split_ifs <;> rfl

theorem multiple_le_value_iff {d : Decimal} (sign : d.negative = false) {multiple : Int} :
    multiple * (10 : ℚ) ^ roundedExponent precision d ≤ d.value ↔
      multiple * (10 ^ excess precision d : Nat) ≤ (d.coefficient : Int) := by
  rw [tens_roundedExponent, value_of_nonnegative sign, ← mul_assoc,
    mul_le_mul_iff_left₀ (tens_pos d.exponent)]
  exact_mod_cast Iff.rfl

theorem value_le_multiple_iff {d : Decimal} (sign : d.negative = false) {multiple : Int} :
    d.value ≤ multiple * (10 : ℚ) ^ roundedExponent precision d ↔
      (d.coefficient : Int) ≤ multiple * (10 ^ excess precision d : Nat) := by
  rw [tens_roundedExponent, value_of_nonnegative sign, ← mul_assoc,
    mul_le_mul_iff_left₀ (tens_pos d.exponent)]
  exact_mod_cast Iff.rfl

/-- If digits are taken away, then because there are too many, which makes the number large, or
because there is no exponent so small. -/
theorem excess_cases {d : Decimal} (one : 1 ≤ precision) (sign : d.negative = false) :
    excess precision d = 0 ∨ roundedExponent precision d = leastExponent precision ∨
      ((10 ^ (precision - 1) : Nat) : Int) * (10 : ℚ) ^ roundedExponent precision d ≤ d.value := by
  by_cases kept : excess precision d = 0
  · exact .inl kept
  rcases Nat.lt_or_ge (leastExponent precision - d.exponent).toNat
    (digitCount d.coefficient - precision) with digits | exponent
  · refine .inr (.inr ((multiple_le_value_iff sign).mpr ?_))
    have count : excess precision d = digitCount d.coefficient - precision := by
      unfold excess
      omega
    have positive : 0 < d.coefficient := by
      by_contra zero
      have : digitCount d.coefficient ≤ 1 := (digitCount_le_iff le_rfl).mpr (by omega)
      omega
    have enough : 10 ^ (precision - 1) * 10 ^ excess precision d ≤ d.coefficient := by
      rw [← Nat.pow_add, count, show precision - 1 + (digitCount d.coefficient - precision) =
        digitCount d.coefficient - 1 by omega]
      exact pow_digitCount_le positive
    exact_mod_cast enough
  · refine .inr (.inl ?_)
    unfold roundedExponent excess at *
    omega

/-- What needs no rounding is a multiple of the last unit that remains, or smaller than any number
with all the digits there. -/
theorem representable_cases {d : Decimal} (one : 1 ≤ precision) (sign : d.negative = false)
    (taken : excess precision d ≠ 0) {x : ℚ} (fits : Representable precision x) :
    (∃ multiple : Int, x = multiple * (10 : ℚ) ^ roundedExponent precision d) ∨
      |x| < ((10 ^ (precision - 1) : Nat) : Int) * (10 : ℚ) ^ roundedExponent precision d ∧
        ((10 ^ (precision - 1) : Nat) : Int) * (10 : ℚ) ^ roundedExponent precision d ≤
        d.value := by
  obtain ⟨coefficient, exponent, few, least, rfl⟩ := fits
  by_cases coarse : roundedExponent precision d ≤ exponent
  · left
    refine ⟨coefficient * (10 ^ (exponent - roundedExponent precision d).toNat : Nat), ?_⟩
    rw [tens_eq coarse]
    push_cast
    ring
  · -- a unit so fine is above the least exponent, so digits were taken away because the number is
    -- large
    right
    have large := ((excess_cases one sign).resolve_left taken).resolve_left (by omega)
    refine ⟨?_, large⟩
    have fewQ : |(coefficient : ℚ)| < (10 : ℚ) ^ (precision : Int) := by
      rw [zpow_natCast]
      exact_mod_cast few
    rw [abs_mul, abs_of_pos (tens_pos exponent)]
    calc
      |(coefficient : ℚ)| * 10 ^ exponent < 10 ^ (precision : Int) * 10 ^ exponent :=
        mul_lt_mul_of_pos_right fewQ (tens_pos exponent)
      _ = 10 ^ (precision + exponent) := (zpow_add₀ (by norm_num) _ _).symm
      _ ≤ 10 ^ ((precision - 1 : Nat) + roundedExponent precision d) := tens_le_tens (by omega)
      _ = _ := by
        rw [zpow_add₀ (by norm_num), zpow_natCast]
        push_cast
        rfl

section Nonnegative

variable {d : Decimal} (one : 1 ≤ precision) (sign : d.negative = false)
include one sign

theorem multiple_le_round {multiple : Int}
    (below : multiple * (10 : ℚ) ^ roundedExponent precision d ≤ d.value) :
    multiple * (10 : ℚ) ^ roundedExponent precision d ≤ (round precision d).value := by
  rw [value_round one sign, mul_le_mul_iff_left₀ (tens_pos _)]
  exact_mod_cast le_divideHalfEven (by positivity) ((multiple_le_value_iff sign).mp below)

theorem round_le_multiple {multiple : Int}
    (above : d.value ≤ multiple * (10 : ℚ) ^ roundedExponent precision d) :
    (round precision d).value ≤ multiple * (10 : ℚ) ^ roundedExponent precision d := by
  rw [value_round one sign, mul_le_mul_iff_left₀ (tens_pos _)]
  exact_mod_cast divideHalfEven_le (by positivity) ((value_le_multiple_iff sign).mp above)

theorem representable_round : Representable precision (round precision d).value := by
  rw [value_round one sign]
  exact representable_of_le_pow one (divideHalfEven_excess_le d)
    (leastExponent_le_roundedExponent d)

theorem rounded_round_of_nonnegative : Rounded precision d.value (round precision d).value where
  representable := representable_round one sign
  le_rounded := by
    intro x fits below
    by_cases kept : excess precision d = 0
    · rwa [round_of_kept kept]
    rcases representable_cases one sign kept fits with ⟨multiple, rfl⟩ | ⟨small, large⟩
    · exact multiple_le_round one sign below
    · exact (le_abs_self x).trans (small.le.trans (multiple_le_round one sign large))
  rounded_le := by
    intro x fits above
    by_cases kept : excess precision d = 0
    · rwa [round_of_kept kept]
    rcases representable_cases one sign kept fits with ⟨multiple, rfl⟩ | ⟨small, large⟩
    · exact round_le_multiple one sign above
    · exact absurd (above.trans (le_abs_self x)) (not_le.mpr (small.trans_le large))

end Nonnegative

theorem rounded_round (one : 1 ≤ precision) (d : Decimal) :
    Rounded precision d.value (round precision d).value := by
  cases sign : d.negative with
  | false => exact rounded_round_of_nonnegative one sign
  | true =>
    have opposite :=
      (rounded_round_of_nonnegative (d := d.negate) one (by simp [negate, withSign, sign])).neg
    rwa [round_negate, value_negate, value_negate, neg_neg, neg_neg] at opposite

/-! ### Results of operations -/

theorem value_of_isZero {d : Decimal} (zero : d.isZero = true) (exponent : Int) :
    Decimal.value { d with exponent := exponent } = d.value := by
  rw [isZero_iff.mp zero]
  exact isZero_iff.mp zero

theorem tens_adjusted_le {d : Decimal} (nonzero : d.isZero = false) :
    (10 : ℚ) ^ d.adjusted ≤ |d.value| := by
  have positive : 0 < d.coefficient := by
    unfold isZero at nonzero
    exact Nat.pos_of_ne_zero (by simpa using nonzero)
  have exponent : d.adjusted = (digitCount d.coefficient - 1 : Nat) + d.exponent := by
    have := digitCount_pos d.coefficient
    unfold adjusted
    omega
  rw [abs_value, exponent, zpow_add₀ (by norm_num), zpow_natCast, mul_le_mul_iff_left₀ (tens_pos _)]
  exact_mod_cast pow_digitCount_le positive

theorem abs_value_lt_tens (d : Decimal) : |d.value| < (10 : ℚ) ^ (d.adjusted + 1) := by
  have exponent : d.adjusted + 1 = digitCount d.coefficient + d.exponent := by
    unfold adjusted
    omega
  rw [abs_value, exponent, zpow_add₀ (by norm_num), zpow_natCast, mul_lt_mul_iff_left₀ (tens_pos _)]
  exact_mod_cast lt_pow_digitCount d.coefficient

theorem coefficient_lt_of_finish (one : 1 ≤ precision) {exact result : Decimal}
    (finished : finish precision exact = .ok result) : result.coefficient < 10 ^ precision := by
  have few := coefficient_round_lt one exact
  unfold finish at finished
  simp only at finished
  split_ifs at finished
  · cases finished
    exact few
  · cases finished
    exact few

theorem value_of_finish {exact result : Decimal} (finished : finish precision exact = .ok result) :
    result.value = (round precision exact).value := by
  unfold finish at finished
  simp only at finished
  split_ifs at finished with zero
  · cases finished
    exact value_of_isZero zero _
  · cases finished
    rfl

theorem rounded_of_finish (one : 1 ≤ precision) {exact result : Decimal}
    (finished : finish precision exact = .ok result) :
    Rounded precision exact.value result.value := by
  rw [value_of_finish finished]
  exact rounded_round one exact

/-- There is a result unless the rounded number is too great. -/
theorem exists_finish_iff {exact : Decimal} :
    (∃ result, finish precision exact = .ok result) ↔
      |(round precision exact).value| < (10 : ℚ) ^ (greatestExponent + 1) := by
  unfold finish
  by_cases zero : (round precision exact).isZero
  · simp only [if_pos zero]
    rw [isZero_iff.mp zero, abs_zero]
    exact iff_of_true ⟨_, rfl⟩ (tens_pos _)
  · have atLeast := tens_adjusted_le (Bool.eq_false_of_not_eq_true zero)
    have atMost := abs_value_lt_tens (round precision exact)
    by_cases great : greatestExponent < (round precision exact).adjusted
    · simp only [if_neg zero, if_pos great]
      exact iff_of_false (fun ⟨_, impossible⟩ => nomatch impossible)
        (not_lt.mpr ((tens_le_tens (by omega)).trans atLeast))
    · simp only [if_neg zero, if_neg great]
      exact iff_of_true ⟨_, rfl⟩ (atMost.trans_le (tens_le_tens (by omega)))

/-- A result that is not too great is there, and differs from the exact number by rounding only. -/
theorem exists_finish (one : 1 ≤ precision) {exact : Decimal}
    (bounded : |exact.value| ≤ (10 : ℚ) ^ greatestExponent) :
    ∃ result, finish precision exact = .ok result ∧ Rounded precision exact.value result.value := by
  have small := (rounded_round one exact).abs_le_greatest one bounded
  have next : (10 : ℚ) ^ greatestExponent < 10 ^ (greatestExponent + 1) :=
    zpow_lt_zpow_right₀ (by norm_num) (by omega)
  obtain ⟨result, finished⟩ := exists_finish_iff.mpr (small.trans_lt next)
  exact ⟨result, finished, rounded_of_finish one finished⟩

end LedgerWire.Decimal
