import Mathlib.Data.Nat.GCD.Basic
import Mathlib.Tactic.GCongr
import Mathlib.Tactic.Ring
import LedgerWire.Proofs.Price.Neighbour

/-!
Contract: where Euclid's algorithm stands on a number and one. The two convergents make up the
number and one, each as often as the dividend and the divisor say; when the divisor has become small
enough against the dividend, the newer convergent is next to the number: of the fractions with parts
in range, none is between them.

Owns:
- `Price.Division`, its steps, and the same division seen from the other side of the newer
  convergent;
- `Division.Settled`, when no fraction with parts in range comes nearer on the number's side;
- what the newer convergent is then: the number itself if that is a fraction with parts in range,
  and otherwise the nearest, unless its neighbour is.

Does not own: the order in which the steps are taken, and what is rounded in them.
-/

namespace LedgerWire.Price

/-- Whether the parts of a fraction stay below the bound on convergents. -/
def Below (parts : Nat × Nat) : Prop := parts.1 < 2147483647 ∧ parts.2 < 2147483647

/-- Where the division of a number by one stands: what is divided by what, and the two convergents
that together with them make up the number and one. -/
structure Division (x : ℚ) where
  older : Nat × Nat
  newer : Nat × Nat
  dividend : ℚ
  divisor : ℚ
  numerator : x = newer.1 * dividend + older.1 * divisor
  denominator : 1 = newer.2 * dividend + older.2 * divisor
  adjacent : Adjacent newer older

theorem ratio_lt_iff {x : ℚ} {parts : Nat × Nat} (positive : 1 ≤ parts.2) :
    ratio parts < x ↔ (parts.1 : ℚ) - x * parts.2 < 0 := by
  unfold ratio
  rw [div_lt_iff₀ (by exact_mod_cast positive), sub_neg]

theorem lt_ratio_iff {x : ℚ} {parts : Nat × Nat} (positive : 1 ≤ parts.2) :
    x < ratio parts ↔ 0 < (parts.1 : ℚ) - x * parts.2 := by
  unfold ratio
  rw [lt_div_iff₀ (by exact_mod_cast positive), sub_pos]

namespace Division

variable {x : ℚ}

/-! ### Steps -/

/-- The number itself, from the formal convergents. -/
def start (x : ℚ) : Division x where
  older := (0, 1)
  newer := (1, 0)
  dividend := x
  divisor := 1
  numerator := by simp
  denominator := by simp
  adjacent := .inl rfl

/-- The newer convergent some times and the older one. -/
def mediant (state : Division x) (times : Nat) : Nat × Nat :=
  (times * state.newer.1 + state.older.1, times * state.newer.2 + state.older.2)

theorem mediant_adjacent (state : Division x) (times : Nat) :
    Adjacent (state.mediant times) state.newer := by
  unfold mediant
  rcases state.adjacent with greater | less
  · right
    linear_combination greater
  · left
    linear_combination less

theorem times_lt {state : Division x} {times : Nat} (below : Below (state.mediant times)) :
    times < 2147483647 := by
  have ⟨numeratorBelow, denominatorBelow⟩ := below
  have adjacent := state.adjacent
  unfold Adjacent at adjacent
  unfold mediant at numeratorBelow denominatorBelow
  by_cases infinity : state.newer.2 = 0
  · rw [infinity, Nat.mul_zero] at adjacent
    have positive : 0 < state.newer.1 := by
      by_contra none
      rw [Nat.eq_zero_of_not_pos none, Nat.zero_mul] at adjacent
      omega
    have := Nat.le_mul_of_pos_right times positive
    omega
  · have := Nat.le_mul_of_pos_right times (Nat.pos_of_ne_zero infinity)
    omega

theorem below_mediant {state : Division x} {times fewer : Nat} (below : Below (state.mediant times))
    (le : fewer ≤ times) : Below (state.mediant fewer) := by
  have := Nat.mul_le_mul_right state.newer.1 le
  have := Nat.mul_le_mul_right state.newer.2 le
  unfold Below mediant at *
  omega

/-- The division with some quotient; what it leaves need not be smaller than the divisor, nor
positive. -/
def next (state : Division x) (quotient : Nat) : Division x where
  older := state.newer
  newer := state.mediant quotient
  dividend := state.divisor
  divisor := state.dividend - quotient * state.divisor
  numerator := by
    conv_lhs => rw [state.numerator]
    unfold mediant
    push_cast
    ring
  denominator := by
    conv_lhs => rw [state.denominator]
    unfold mediant
    push_cast
    ring
  adjacent := state.mediant_adjacent quotient

/-- The same convergent seen from its other side. -/
def mirror (state : Division x)
    (smaller : state.older.1 ≤ state.newer.1 ∧ state.older.2 ≤ state.newer.2) :
    Division x where
  older := (state.newer.1 - state.older.1, state.newer.2 - state.older.2)
  newer := state.newer
  dividend := state.dividend + state.divisor
  divisor := -state.divisor
  numerator := by
    conv_lhs => rw [state.numerator]
    push_cast [smaller.1]
    ring
  denominator := by
    conv_lhs => rw [state.denominator]
    push_cast [smaller.2]
    ring
  adjacent := by
    unfold Adjacent
    zify [smaller.1, smaller.2]
    rcases state.adjacent with greater | less
    · zify at greater
      right
      linear_combination greater
    · zify at less
      left
      linear_combination less

/-! ### Convergents that are next to the number -/

/-- Whether the number is strictly before every fraction in range that is made of the newer
convergent some times and the older one. -/
structure Settled (state : Division x) : Prop where
  newerBelow : Below state.newer
  olderBelow : Below state.older
  divisor_nonneg : 0 ≤ state.divisor
  before : ∀ times : Nat, Below (state.mediant times) → times * state.divisor < state.dividend

/-- If the number is not before a mediant in range, the divisor is not small. -/
theorem one_le_of_beyond {state : Division x} {times : Nat} (below : Below (state.mediant times))
    (nonnegative : 0 ≤ state.divisor) (beyond : state.dividend ≤ times * state.divisor) :
    1 ≤ 2147483646 * state.divisor := by
  have most : times * (state.newer.2 : ℚ) + state.older.2 ≤ 2147483646 := by
    exact_mod_cast Nat.le_of_lt_succ below.2
  calc
    1 = state.newer.2 * state.dividend + state.older.2 * state.divisor := state.denominator
    _ ≤ state.newer.2 * (times * state.divisor) + state.older.2 * state.divisor := by gcongr
    _ = (times * (state.newer.2 : ℚ) + state.older.2) * state.divisor := by ring
    _ ≤ 2147483646 * state.divisor := by gcongr

theorem settled_of_small {state : Division x} (newerBelow : Below state.newer)
    (olderBelow : Below state.older)
    (nonnegative : 0 ≤ state.divisor) (small : state.divisor * 2147483647 ≤ 1) : state.Settled where
  newerBelow := newerBelow
  olderBelow := olderBelow
  divisor_nonneg := nonnegative
  before := by
    intro times below
    by_contra beyond
    have := one_le_of_beyond below nonnegative (not_lt.mp beyond)
    linarith

/-- A divisor that is small, of whatever sign, settles the newer convergent from one side or the
other. -/
theorem exists_settled_of_small (state : Division x) (newerBelow : Below state.newer)
    (smaller : state.divisor < 0 → state.older.1 ≤ state.newer.1 ∧ state.older.2 ≤ state.newer.2)
    (olderBelow : Below state.older) (small : |state.divisor| * 2147483647 ≤ 1) :
    ∃ last : Division x, last.newer = state.newer ∧ last.Settled := by
  by_cases negative : state.divisor < 0
  · rw [abs_of_neg negative] at small
    have olderBelow : Below (state.mirror (smaller negative)).older := by
      unfold Below at newerBelow ⊢
      change state.newer.1 - state.older.1 < _ ∧ state.newer.2 - state.older.2 < _
      omega
    exact ⟨state.mirror (smaller negative), rfl,
      settled_of_small newerBelow olderBelow (neg_nonneg.mpr negative.le) small⟩
  · have nonnegative := not_lt.mp negative
    rw [abs_of_nonneg nonnegative] at small
    exact ⟨state, rfl, settled_of_small newerBelow olderBelow nonnegative small⟩

/-! ### Fractions from the two convergents -/

/-- Which way the newer convergent turns from the older one: up or down. -/
def turn (state : Division x) : Int := state.newer.1 * state.older.2 - state.older.1 * state.newer.2

theorem turn_eq (state : Division x) : state.turn = 1 ∨ state.turn = -1 := by
  unfold turn
  rcases state.adjacent with greater | less
  · left
    zify at greater
    linarith
  · right
    zify at less
    linarith

theorem turn_mul_self (state : Division x) : state.turn * state.turn = 1 := by
  rcases state.turn_eq with up | down
  · rw [up, one_mul]
  · rw [down, neg_mul_neg, one_mul]

section Combination

variable (state : Division x) (other : Nat × Nat)

/-- How often the newer convergent goes into a fraction. -/
def newerShare : Int := state.turn * (other.1 * state.older.2 - state.older.1 * other.2)

/-- How often the older convergent goes into a fraction. -/
def olderShare : Int := state.turn * (state.newer.1 * other.2 - other.1 * state.newer.2)

theorem fst_eq_combination :
    (other.1 : Int) =
      state.newerShare other * state.newer.1 + state.olderShare other * state.older.1 := by
  have square := state.turn_mul_self
  unfold newerShare olderShare
  conv at square => lhs; rhs; unfold turn
  linear_combination -(other.1 : Int) * square

theorem snd_eq_combination :
    (other.2 : Int) =
      state.newerShare other * state.newer.2 + state.olderShare other * state.older.2 := by
  have square := state.turn_mul_self
  unfold newerShare olderShare
  conv at square => lhs; rhs; unfold turn
  linear_combination -(other.2 : Int) * square

/-- On which side of the newer convergent the number lies. -/
theorem newer_sub_eq : (state.newer.1 : ℚ) - x * state.newer.2 = state.turn * state.divisor := by
  unfold turn
  push_cast
  linear_combination (state.newer.1 : ℚ) * state.denominator - (state.newer.2 : ℚ) * state.numerator

/-- On which side of a fraction the number lies. -/
theorem other_sub_eq : (other.1 : ℚ) - x * other.2 =
    state.turn *
      (state.newerShare other * state.divisor - state.olderShare other * state.dividend) := by
  have square : (state.turn : ℚ) * state.turn = 1 := by exact_mod_cast state.turn_mul_self
  unfold newerShare olderShare
  push_cast
  linear_combination (state.turn * state.turn * other.1 : ℚ) * state.denominator -
    (state.turn * state.turn * other.2 : ℚ) * state.numerator - (other.1 - x * other.2) * square

/-- On which side of the newer convergent a fraction lies. -/
theorem newer_sub_other_eq :
    (state.newer.1 : Int) * other.2 - other.1 * state.newer.2 =
      state.turn * state.olderShare other := by
  unfold olderShare
  linear_combination -(state.newer.1 * other.2 - other.1 * state.newer.2 : Int) *
    state.turn_mul_self

end Combination

/-! ### What a settled convergent is -/

namespace Settled

variable {state : Division x} (settled : state.Settled)
include settled

theorem dividend_pos : 0 < state.dividend := by
  have zero := settled.before 0 (by simpa [mediant] using settled.olderBelow)
  rwa [Nat.cast_zero, zero_mul] at zero

/-- A fraction in range that lies on the older convergent's side of the newer one is beyond the
number. -/
theorem share_lt {other : Nat × Nat} (below : Below other)
    (olderSide : 1 ≤ state.olderShare other) :
    state.newerShare other * state.divisor < state.olderShare other * state.dividend := by
  have olderSideQ : (1 : ℚ) ≤ state.olderShare other := by exact_mod_cast olderSide
  have dividend : state.dividend ≤ state.olderShare other * state.dividend :=
    le_mul_of_one_le_left settled.dividend_pos.le olderSideQ
  rcases le_total (state.newerShare other) 0 with negative | nonnegative
  · have : state.newerShare other * state.divisor ≤ 0 :=
      mul_nonpos_of_nonpos_of_nonneg (by exact_mod_cast negative) settled.divisor_nonneg
    linarith [settled.dividend_pos]
  · obtain ⟨times, times_eq⟩ := Int.eq_ofNat_of_zero_le nonnegative
    have numerator := state.fst_eq_combination other
    have denominator := state.snd_eq_combination other
    rw [times_eq] at numerator denominator ⊢
    have madeUp : Below (state.mediant times) := by
      have := le_mul_of_one_le_left (Int.natCast_nonneg state.older.1) olderSide
      have := le_mul_of_one_le_left (Int.natCast_nonneg state.older.2) olderSide
      have := below.1
      have := below.2
      constructor
      · show times * state.newer.1 + state.older.1 < 2147483647
        zify
        linarith
      · show times * state.newer.2 + state.older.2 < 2147483647
        zify
        linarith
    have before := settled.before times madeUp
    rw [Int.cast_natCast]
    linarith

/-- No fraction with parts in range comes between the newer convergent and the number. -/
theorem not_between {other : Nat × Nat} (below : Below other) (otherPositive : 1 ≤ other.2)
    (newerPositive : 1 ≤ state.newer.2) : ¬ Between (ratio other) (ratio state.newer) x := by
  have nonnegative := settled.divisor_nonneg
  have order := state.newer_sub_other_eq other
  intro between
  rcases between with ⟨above, before⟩ | ⟨beyond, under⟩
  · have newerBefore := above.trans before
    rw [ratio_lt_iff newerPositive, state.newer_sub_eq] at newerBefore
    rw [ratio_lt_iff otherPositive, state.other_sub_eq] at before
    rw [ratio_lt_ratio_iff newerPositive otherPositive] at above
    rcases state.turn_eq with up | down
    · rw [up, Int.cast_one, one_mul] at newerBefore
      linarith
    · rw [down, Int.cast_neg, Int.cast_one] at before
      rw [down] at order
      zify at above
      linarith [settled.share_lt below (by linarith)]
  · have newerBeyond := beyond.trans under
    rw [lt_ratio_iff newerPositive, state.newer_sub_eq] at newerBeyond
    rw [lt_ratio_iff otherPositive, state.other_sub_eq] at beyond
    rw [ratio_lt_ratio_iff otherPositive newerPositive] at under
    rcases state.turn_eq with up | down
    · rw [up, Int.cast_one, one_mul] at beyond
      rw [up] at order
      zify at under
      linarith [settled.share_lt below (by linarith)]
    · rw [down, Int.cast_neg, Int.cast_one] at newerBeyond
      linarith

/-- A number that is itself a fraction in lowest terms with parts in range is the newer
convergent. -/
theorem newer_eq {n d : Nat} (below : Below (n, d)) (positive : 0 < d) (coprime : n.Coprime d)
    (value : x = n / d) : state.newer = (n, d) := by
  have numerator := state.fst_eq_combination (n, d)
  have denominator := state.snd_eq_combination (n, d)
  have positiveQ : (d : ℚ) ≠ 0 := by exact_mod_cast positive.ne'
  have even : (state.newerShare (n, d) : ℚ) * state.divisor =
      state.olderShare (n, d) * state.dividend := by
    have side := state.other_sub_eq (n, d)
    have zero : (n : ℚ) - x * d = 0 := by
      rw [value, div_mul_cancel₀ _ positiveQ, sub_self]
    rw [zero] at side
    rcases state.turn_eq with up | down
    · rw [up, Int.cast_one] at side
      linarith
    · rw [down, Int.cast_neg, Int.cast_one] at side
      linarith
  have noOlder : state.olderShare (n, d) = 0 := by
    rcases lt_trichotomy (state.olderShare (n, d)) 0 with negative | zero | beyond
    · have negativeQ : (state.olderShare (n, d) : ℚ) < 0 := by exact_mod_cast negative
      have newerNegative : state.newerShare (n, d) < 0 := by
        by_contra nonnegative
        have : (0 : ℚ) ≤ state.newerShare (n, d) := by exact_mod_cast not_lt.mp nonnegative
        have := mul_nonneg this settled.divisor_nonneg
        linarith [mul_neg_of_neg_of_pos negativeQ settled.dividend_pos]
      have := mul_nonpos_of_nonpos_of_nonneg newerNegative.le (Int.natCast_nonneg state.newer.2)
      have := mul_nonpos_of_nonpos_of_nonneg negative.le (Int.natCast_nonneg state.older.2)
      change (d : Int) = _ at denominator
      omega
    · exact zero
    · exact absurd even (settled.share_lt below beyond).ne
  rw [noOlder, zero_mul, add_zero] at numerator denominator
  change (n : Int) = _ at numerator
  change (d : Int) = _ at denominator
  have sharePositive : 0 < state.newerShare (n, d) := by
    by_contra negative
    have := mul_nonpos_of_nonpos_of_nonneg (not_lt.mp negative) (Int.natCast_nonneg state.newer.2)
    omega
  obtain ⟨share, share_eq⟩ := Int.eq_ofNat_of_zero_le sharePositive.le
  rw [share_eq] at numerator denominator
  norm_cast at numerator denominator
  have one : share = 1 :=
    Nat.eq_one_of_dvd_coprimes coprime ⟨_, numerator⟩ ⟨_, denominator⟩
  rw [one, Nat.one_mul] at numerator denominator
  exact Prod.ext numerator.symm denominator.symm

end Settled

/-! ### The neighbour -/

/-- How often the newer convergent goes into the last mediant with parts up to the bound. -/
def lastTimes (state : Division x) : Nat :=
  min ((2147483647 - state.older.1) / state.newer.1) ((2147483647 - state.older.2) / state.newer.2)

section Neighbour

variable {state : Division x} (numeratorPositive : 1 ≤ state.newer.1)
  (denominatorPositive : 1 ≤ state.newer.2)
include numeratorPositive denominatorPositive

theorem le_lastTimes_iff (olderBelow : Below state.older) {times : Nat} :
    times ≤ state.lastTimes ↔
      (state.mediant times).1 ≤ 2147483647 ∧ (state.mediant times).2 ≤ 2147483647 := by
  have ⟨numeratorBelow, denominatorBelow⟩ := olderBelow
  unfold lastTimes mediant
  rw [le_min_iff, Nat.le_div_iff_mul_le numeratorPositive,
    Nat.le_div_iff_mul_le denominatorPositive, Nat.le_sub_iff_add_le numeratorBelow.le,
    Nat.le_sub_iff_add_le denominatorBelow.le]

/-- Next to a formal convergent there is a mediant in range that is none. -/
theorem one_le_lastTimes (newerBelow : Below state.newer) (olderBelow : Below state.older)
    (formal : state.older.1 = 0 ∨ state.older.2 = 0) : 1 ≤ state.lastTimes := by
  have ⟨numeratorBelow, denominatorBelow⟩ := newerBelow
  rw [le_lastTimes_iff numeratorPositive denominatorPositive olderBelow]
  unfold mediant
  rw [Nat.one_mul, Nat.one_mul]
  have adjacent := state.adjacent
  unfold Adjacent at adjacent
  rcases formal with zero | infinity
  · rw [zero, Nat.zero_mul, Nat.zero_add] at adjacent
    have one : state.older.2 = 1 :=
      Nat.eq_one_of_mul_eq_one_left (adjacent.resolve_right (by omega))
    omega
  · rw [infinity, Nat.mul_zero, Nat.zero_add] at adjacent
    have one : state.older.1 = 1 :=
      Nat.eq_one_of_mul_eq_one_right (adjacent.resolve_left (by omega))
    omega

theorem within_last (newerBelow : Below state.newer) (olderBelow : Below state.older) :
    Within 2147483647 (state.mediant state.lastTimes) := by
  have ⟨numeratorLe, denominatorLe⟩ :=
    (le_lastTimes_iff numeratorPositive denominatorPositive olderBelow).mp le_rfl
  have formal := one_le_lastTimes numeratorPositive denominatorPositive newerBelow olderBelow
  have numerator := Nat.le_mul_of_pos_right state.lastTimes numeratorPositive
  have denominator := Nat.le_mul_of_pos_right state.lastTimes denominatorPositive
  constructor
  · show 1 ≤ state.lastTimes * state.newer.1 + state.older.1
    omega
  · show 1 ≤ state.lastTimes * state.newer.2 + state.older.2
    omega
  · exact numeratorLe
  · exact denominatorLe

end Neighbour

/-- The mediants of a settled convergent lie on the number's side of it. -/
theorem Settled.side {state : Division x} (settled : state.Settled)
    (denominatorPositive : 1 ≤ state.newer.2)
    {times : Nat} (mediantPositive : 1 ≤ (state.mediant times).2) :
    ratio state.newer ≤ x ∧ ratio state.newer < ratio (state.mediant times) ∨
      x ≤ ratio state.newer ∧ ratio (state.mediant times) < ratio state.newer := by
  have nonnegative := settled.divisor_nonneg
  have order :
      (state.newer.1 * (state.mediant times).2 - (state.mediant times).1 * state.newer.2 : Int) =
      state.turn := by
    unfold turn mediant
    push_cast
    ring
  rw [ratio_lt_ratio_iff denominatorPositive mediantPositive,
    ratio_lt_ratio_iff mediantPositive denominatorPositive, ← not_lt, ← not_lt,
    lt_ratio_iff denominatorPositive, ratio_lt_iff denominatorPositive, state.newer_sub_eq]
  zify
  rcases state.turn_eq with up | down
  · right
    rw [up] at order ⊢
    rw [Int.cast_one, one_mul]
    constructor
    · exact not_lt.mpr nonnegative
    · linarith
  · left
    rw [down] at order ⊢
    rw [Int.cast_neg, Int.cast_one, neg_one_mul]
    constructor
    · exact not_lt.mpr (neg_nonpos.mpr nonnegative)
    · linarith

/-- On the number's side, the last mediant with parts up to the bound is the neighbour of a settled
convergent. -/
theorem Settled.neighbour {state : Division x} (settled : state.Settled)
    (numeratorPositive : 1 ≤ state.newer.1)
    (denominatorPositive : 1 ≤ state.newer.2) :
    Neighbour 2147483647 x state.newer (state.mediant state.lastTimes) := by
  have within :=
    within_last numeratorPositive denominatorPositive settled.newerBelow settled.olderBelow
  have once := (le_lastTimes_iff numeratorPositive denominatorPositive settled.olderBelow).not.mp
    (Nat.not_succ_le_self state.lastTimes)
  constructor
  · exact within
  · exact (state.mediant_adjacent _).symm
  · exact settled.side denominatorPositive within.denominator_pos
  · unfold mediant at once ⊢
    rw [Nat.succ_mul, Nat.succ_mul] at once
    change _ < _ + (_ + _) ∨ _ < _ + (_ + _)
    omega

end Division

end LedgerWire.Price
