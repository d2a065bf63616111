import LedgerWire.Proofs.Price.Division
import LedgerWire.Proofs.Price.Roundoff

/-!
Contract: the continued fraction of a number, worked out in 28 digits, ends at a convergent that is
next to the number. The steps are those of Euclid's algorithm: the roundings may change the last
partial quotient, but then what the division leaves is so small that it settles the convergent all
the same.

Owns:
- `Price.Follows`, how far the expansion may be from the division of the number;
- one pass, and the whole expansion;
- the fraction at which the expansion of a fraction in range ends.

Does not own: how a number is read from a text, and whether a settled convergent is the nearest.
-/

namespace LedgerWire.Price

open Decimal

variable {x : ℚ}

/-- Whether a convergent is the newer one of a settled division. -/
def Convergent.IsSettled (convergent : Convergent) (x : ℚ) : Prop :=
  ∃ last : Division x, convergent.IsFraction last.newer ∧ last.Settled

/-- A measure of the denominators that at least doubles with every step. -/
def Division.growth (state : Division x) : Nat :=
  2 * (state.newer.2 * state.newer.2) + state.newer.2 * state.older.2 +
    state.older.2 * state.older.2

/-- Whether the expansion is where the division stands. The number that is left stands for the
dividend in units of the divisor; its error is so far below what may add up in 64 passes that the
passes to come may add three units each. -/
structure Follows (state : Division x) (passes : Nat) (number : Decimal)
    (older newer : Convergent) : Prop where
  older : older.IsFraction state.older
  newer : newer.IsFraction state.newer
  olderBelow : Below state.older
  newerBelow : Below state.newer
  divisor_pos : 0 < state.divisor
  divisor_le : state.divisor ≤ 1
  begun : state.newer.2 = 0 ∧ 0 ≤ number.value ∧ number.value * state.divisor = state.dividend ∨
    1 ≤ state.newer.2 ∧ 1 ≤ number.value
  close : |number.value * state.divisor - state.dividend| ≤ state.dividend / 1000
  error : |number.value * state.divisor - state.dividend| * state.divisor + 3 * passes / 10 ^ 27 ≤
    192 / 10 ^ 27
  enough : 2 ^ 64 ≤ 2 ^ passes * state.growth

theorem follows_start {number : Decimal} (nonnegative : 0 ≤ number.value) :
    Follows (Division.start number.value) 64 number formalConvergents.1 formalConvergents.2 where
  older := by
    unfold Convergent.IsFraction formalConvergents
    simp [Division.start]
  newer := by
    unfold Convergent.IsFraction formalConvergents
    simp [Division.start]
  olderBelow := by
    change 0 < 2147483647 ∧ 1 < 2147483647
    decide
  newerBelow := by
    change 1 < 2147483647 ∧ 0 < 2147483647
    decide
  divisor_pos := one_pos
  divisor_le := le_rfl
  begun := .inl ⟨rfl, nonnegative, mul_one _⟩
  close := by
    change |number.value * 1 - number.value| ≤ number.value / 1000
    rw [mul_one, sub_self, abs_zero]
    positivity
  error := by
    change |number.value * 1 - number.value| * 1 + 3 * (64 : Nat) / 10 ^ 27 ≤ 192 / 10 ^ 27
    rw [mul_one number.value, sub_self, abs_zero]
    norm_num
  enough := by
    change 2 ^ 64 ≤ 2 ^ 64 * (2 * (0 * 0) + 0 * 1 + 1 * 1)
    decide

/-! ### Whole parts -/

section Whole

variable {y : ℚ} {quotient : Nat}

theorem fract_eq_sub (floor : ⌊y⌋ = quotient) : Int.fract y = y - quotient := by
  unfold Int.fract
  rw [floor, Int.cast_natCast]

theorem exists_floor (nonnegative : 0 ≤ y) (below : y ≤ 2147483647) :
    ∃ quotient : Nat, ⌊y⌋ = quotient ∧ quotient ≤ 2147483647 := by
  obtain ⟨quotient, floor⟩ := Int.eq_ofNat_of_zero_le (Int.floor_nonneg.mpr nonnegative)
  have atMost := Int.floor_le y
  rw [floor] at atMost
  exact ⟨quotient, floor, by exact_mod_cast atMost.trans below⟩

theorem one_le_of_floor (floor : ⌊y⌋ = quotient) (one : 1 ≤ y) : 1 ≤ quotient := by
  have : (1 : Int) ≤ ⌊y⌋ := Int.le_floor.mpr (by exact_mod_cast one)
  omega

/-- What is left of a number that stands for the dividend stands for what the division leaves, with
the same error. -/
theorem Division.remainder_eq (state : Division x) (floor : ⌊y⌋ = quotient) :
    Int.fract y * state.divisor - (state.next quotient).divisor =
      y * state.divisor - state.dividend := by
  rw [fract_eq_sub floor]
  change (y - quotient) * state.divisor - (state.dividend - quotient * state.divisor) = _
  ring

theorem Division.denominator_next (state : Division x) (quotient : Nat) :
    1 = (state.mediant quotient).2 * state.divisor +
      state.newer.2 * (state.next quotient).divisor :=
  (state.next quotient).denominator

theorem Division.newer_le_mediant (state : Division x) (one : 1 ≤ quotient) :
    state.newer.1 ≤ (state.mediant quotient).1 ∧ state.newer.2 ≤ (state.mediant quotient).2 := by
  have := Nat.le_mul_of_pos_left state.newer.1 one
  have := Nat.le_mul_of_pos_left state.newer.2 one
  unfold Division.mediant
  omega

end Whole

/-! ### Where the expansion stops -/

/-- The next convergent after one in range needs no rounding. -/
theorem multiplyAdd_few {whole part older : Nat} (wholeLe : whole ≤ 2147483647)
    (partSmall : part < 2147483647)
    (olderSmall : older < 2147483647) : whole * part + older < 10 ^ 28 := by
  have := Nat.mul_le_mul wholeLe partSmall.le
  omega

theorem expand_of_far {number : Decimal} {older newer : Convergent}
    {olderParts newerParts : Nat × Nat} (passes : Nat)
    (olderIs : older.IsFraction olderParts) (newerIs : newer.IsFraction newerParts)
    (olderBelow : Below olderParts)
    (newerBelow : Below newerParts) (far : 2147483647 ≤ (number.value - 1) * newerParts.2) :
    expand passes number older newer = .ok newer := by
  cases passes with
  | zero => rfl
  | succ passes =>
    by_cases above : 2147483647 < number.value
    · exact expand_of_gt _ above
    · have below := not_lt.mp above
      have nonnegative : 0 ≤ number.value := by
        by_contra negative
        have : (number.value - 1) * newerParts.2 ≤ 0 :=
          mul_nonpos_of_nonpos_of_nonneg (by linarith) (Nat.cast_nonneg _)
        linarith
      obtain ⟨whole, floor, wholeLe⟩ := exists_floor nonnegative below
      obtain ⟨_, _, _, _, equation⟩ :=
        expand_succ passes below floor olderIs newerIs
          (multiplyAdd_few wholeLe newerBelow.1 olderBelow.1)
          (multiplyAdd_few wholeLe newerBelow.2 olderBelow.2)
      have reached : 2147483647 ≤ whole * newerParts.2 + olderParts.2 := by
        have next := Int.lt_floor_add_one number.value
        rw [floor] at next
        push_cast at next
        have : (number.value - 1) * newerParts.2 ≤ whole * newerParts.2 :=
          mul_le_mul_of_nonneg_right (by linarith) (Nat.cast_nonneg _)
        have : 2147483647 ≤ whole * newerParts.2 := by exact_mod_cast far.trans this
        omega
      rw [equation, if_pos (.inl reached)]

section Pass

variable {state : Division x} {passes : Nat} {number : Decimal} {older newer : Convergent}

namespace Follows

theorem error_le (follows : Follows state passes number older newer) :
    |number.value * state.divisor - state.dividend| * state.divisor ≤ 192 / 10 ^ 27 := by
  have granted : (0 : ℚ) ≤ 3 * passes / 10 ^ 27 := by positivity
  linarith [follows.error]

theorem number_nonneg (follows : Follows state passes number older newer) : 0 ≤ number.value := by
  rcases follows.begun with ⟨-, nonnegative, -⟩ | ⟨-, one⟩
  · exact nonnegative
  · linarith

/-- If every mediant in range takes the newer convergent less often than the number says, that one
is settled. -/
theorem settled_of_beyond (follows : Follows state passes number older newer)
    (beyond : ∀ times : Nat, Below (state.mediant times) → times + 1 ≤ number.value) :
    state.Settled where
  newerBelow := follows.newerBelow
  olderBelow := follows.olderBelow
  divisor_nonneg := follows.divisor_pos.le
  before := by
    intro times below
    by_contra notBefore
    have large := Division.one_le_of_beyond below follows.divisor_pos.le (not_lt.mp notBefore)
    -- the number would be wrong by the divisor
    have wrong : state.divisor ≤ |number.value * state.divisor - state.dividend| := by
      have := mul_le_mul_of_nonneg_right (beyond times below) follows.divisor_pos.le
      linarith [le_abs_self (number.value * state.divisor - state.dividend)]
    have square := (mul_le_mul_of_nonneg_right wrong follows.divisor_pos.le).trans follows.error_le
    norm_num at square
    nlinarith

/-! ### One division -/

variable {quotient : Nat}

theorem add_le_mediant (follows : Follows state passes number older newer)
    (floor : ⌊number.value⌋ = quotient) :
    state.newer.2 + state.older.2 ≤ (state.mediant quotient).2 := by
  unfold Division.mediant
  rcases follows.begun with ⟨zero, -, -⟩ | ⟨-, one⟩
  · rw [zero, Nat.mul_zero]
  · have := Nat.le_mul_of_pos_left state.newer.2 (one_le_of_floor floor one)
    omega

/-- What the division leaves is hardly more than the divisor. -/
theorem divisor_next_le (follows : Follows state passes number older newer)
    (floor : ⌊number.value⌋ = quotient) :
    (state.next quotient).divisor ≤ state.divisor + state.dividend / 1000 := by
  have proper :=
    mul_le_mul_of_nonneg_right (Int.fract_lt_one number.value).le follows.divisor_pos.le
  have remainder := state.remainder_eq floor
  have close := (abs_le.mp follows.close).1
  linarith

/-- The denominator of the next convergent is great enough for the divisor. -/
theorem share (follows : Follows state passes number older newer)
    (floor : ⌊number.value⌋ = quotient) :
    9 / 20 ≤ (state.mediant quotient).2 * state.divisor := by
  have here := state.denominator
  have there := state.denominator_next quotient
  have dividendShare : state.newer.2 * state.dividend ≤ 1 := by
    have olderPart : (0 : ℚ) ≤ state.older.2 * state.divisor :=
      mul_nonneg (Nat.cast_nonneg _) follows.divisor_pos.le
    linarith
  have left : state.newer.2 * (state.next quotient).divisor ≤
      state.newer.2 * (state.divisor + state.dividend / 1000) :=
    mul_le_mul_of_nonneg_left (follows.divisor_next_le floor) (Nat.cast_nonneg _)
  have grown : state.newer.2 * state.divisor ≤ (state.mediant quotient).2 * state.divisor := by
    have : (state.newer.2 : ℚ) ≤ (state.mediant quotient).2 := by
      exact_mod_cast (Nat.le_add_right _ _).trans (follows.add_le_mediant floor)
    exact mul_le_mul_of_nonneg_right this follows.divisor_pos.le
  linarith

theorem one_le_mediant (follows : Follows state passes number older newer)
    (floor : ⌊number.value⌋ = quotient) :
    1 ≤ (state.mediant quotient).2 := by
  by_contra none
  have zero : (state.mediant quotient).2 = 0 := by omega
  have share := follows.share floor
  rw [zero, Nat.cast_zero, zero_mul] at share
  norm_num at share

theorem divisor_next_le_one (follows : Follows state passes number older newer)
    (floor : ⌊number.value⌋ = quotient) : (state.next quotient).divisor ≤ 1 := by
  rcases follows.begun with ⟨-, -, exact⟩ | ⟨newerPositive, -⟩
  · have proper :=
      mul_le_mul_of_nonneg_right (Int.fract_lt_one number.value).le follows.divisor_pos.le
    have remainder := state.remainder_eq floor
    linarith [follows.divisor_le]
  · by_contra great
    have there := state.denominator_next quotient
    have : (state.next quotient).divisor ≤ state.newer.2 * (state.next quotient).divisor :=
      le_mul_of_one_le_left (by linarith) (by exact_mod_cast newerPositive)
    linarith [follows.share floor]

theorem growth_next (follows : Follows state passes number older newer)
    (floor : ⌊number.value⌋ = quotient) :
    2 * state.growth ≤ (state.next quotient).growth := by
  have sum := follows.add_le_mediant floor
  change _ ≤ 2 * ((state.mediant quotient).2 * (state.mediant quotient).2) +
    (state.mediant quotient).2 * state.newer.2 + state.newer.2 * state.newer.2
  unfold Division.growth
  -- if the next denominator is just the sum, the new measure is twice the old one and three
  -- products of the two
  nlinarith

theorem next (follows : Follows state (passes + 1) number older newer)
    (floor : ⌊number.value⌋ = quotient)
    (inRange : Below (state.mediant quotient))
    (large : 1 / 10 ^ 21 ≤ (state.next quotient).divisor * state.divisor)
    {following : Convergent} {reciprocal : Decimal} {rounded : ℚ}
    (nextIs : following.IsFraction (state.mediant quotient)) (positive : 0 < Int.fract number.value)
    (improper : 1 ≤ reciprocal.value)
    (roundedError : |rounded - Int.fract number.value| ≤ Int.fract number.value / 10 ^ 27)
    (reciprocalError : |reciprocal.value - 1 / rounded| ≤ 1 / rounded / 10 ^ 27) :
    Follows (state.next quotient) passes reciprocal newer following := by
  have restPositive : 0 < (state.next quotient).divisor :=
    pos_of_mul_pos_left (lt_of_lt_of_le (by norm_num) large) follows.divisor_pos.le
  have productSmall : (state.next quotient).divisor * state.divisor ≤ 1 :=
    mul_le_one₀ (follows.divisor_next_le_one floor) follows.divisor_pos.le follows.divisor_le
  have remainderError := follows.error_le
  rw [← state.remainder_eq floor] at remainderError
  have grown := reciprocal_error follows.divisor_pos le_rfl remainderError large productSmall
    positive roundedError
    reciprocalError
  have granted := follows.error
  rw [← state.remainder_eq floor] at granted
  push_cast at granted
  have error : |reciprocal.value * (state.next quotient).divisor - state.divisor| *
      (state.next quotient).divisor +
      3 * passes / 10 ^ 27 ≤ 192 / 10 ^ 27 := by
    linarith
  have close : |reciprocal.value * (state.next quotient).divisor - state.divisor| ≤
      state.divisor / 1000 := by
    refine le_of_mul_le_mul_right ?_ restPositive
    have passesLeft : (0 : ℚ) ≤ 3 * passes / 10 ^ 27 := by positivity
    norm_num at error large ⊢
    linarith
  have enough : 2 ^ 64 ≤ 2 ^ passes * (state.next quotient).growth :=
    calc
      2 ^ 64 ≤ 2 ^ (passes + 1) * state.growth := follows.enough
      _ = 2 ^ passes * (2 * state.growth) := by ring
      _ ≤ 2 ^ passes * (state.next quotient).growth :=
        Nat.mul_le_mul_left _ (follows.growth_next floor)
  exact ⟨follows.newer, nextIs, follows.newerBelow, inRange, restPositive,
    follows.divisor_next_le_one floor, .inr ⟨follows.one_le_mediant floor, improper⟩, close,
    error, enough⟩

/-- What the division leaves is negative by the error at most. -/
theorem abs_rest_mul_le (follows : Follows state passes number older newer)
    (floor : ⌊number.value⌋ = quotient)
    (small : (state.next quotient).divisor * state.divisor < 1 / 10 ^ 21) :
    |(state.next quotient).divisor| * state.divisor ≤ 1 / 10 ^ 21 := by
  rcases abs_cases (state.next quotient).divisor with ⟨size, -⟩ | ⟨size, -⟩
  · rw [size]
    exact small.le
  · have leftOver := mul_nonneg (mul_nonneg (Int.fract_nonneg number.value) follows.divisor_pos.le)
      follows.divisor_pos.le
    have wrong := mul_le_mul_of_nonneg_right
      (le_abs_self (Int.fract number.value * state.divisor - (state.next quotient).divisor))
      follows.divisor_pos.le
    have errorLe := follows.error_le
    rw [← state.remainder_eq floor] at errorLe
    rw [size]
    norm_num at errorLe ⊢
    linarith

/-- A convergent in range after which the division leaves very little is settled, whether it leaves
too little or too much. -/
theorem isSettled_of_small (follows : Follows state passes number older newer)
    (floor : ⌊number.value⌋ = quotient)
    (inRange : Below (state.mediant quotient))
    (small : (state.next quotient).divisor * state.divisor < 1 / 10 ^ 21)
    {following : Convergent} (nextIs : following.IsFraction (state.mediant quotient)) :
    following.IsSettled x := by
  have smaller : (state.next quotient).divisor < 0 →
      state.newer.1 ≤ (state.mediant quotient).1 ∧ state.newer.2 ≤ (state.mediant quotient).2 := by
    intro negative
    rcases follows.begun with ⟨-, -, exact⟩ | ⟨-, one⟩
    · have remainder := state.remainder_eq floor
      have leftOver := mul_nonneg (Int.fract_nonneg number.value) follows.divisor_pos.le
      linarith
    · exact state.newer_le_mediant (one_le_of_floor floor one)
  have divisorLarge : 9 / 20 ≤ 2147483647 * state.divisor := by
    have inRangeQ : ((state.mediant quotient).2 : ℚ) ≤ 2147483647 := by exact_mod_cast inRange.2.le
    exact (follows.share floor).trans (mul_le_mul_of_nonneg_right inRangeQ follows.divisor_pos.le)
  have restSmall : |(state.next quotient).divisor| * 2147483647 ≤ 1 := by
    have scaled := mul_le_mul_of_nonneg_left divisorLarge (abs_nonneg (state.next quotient).divisor)
    have productSmall := follows.abs_rest_mul_le floor small
    norm_num at productSmall
    linarith
  obtain ⟨last, lastIs, settled⟩ :=
    (state.next quotient).exists_settled_of_small inRange smaller follows.newerBelow restSmall
  refine ⟨last, ?_, settled⟩
  rw [lastIs]
  exact nextIs

end Follows

/-- One pass: the expansion ends at the newer convergent, and that is settled; or it takes the next
one, and looks at what is left of the number. -/
theorem Follows.expand_cases (follows : Follows state (passes + 1) number older newer) :
    (expand (passes + 1) number older newer = .ok newer ∧ state.Settled) ∨
      ∃ quotient : Nat, ∃ fraction following,
        ⌊number.value⌋ = quotient ∧ Below (state.mediant quotient) ∧
        Rounded precision (Int.fract number.value) fraction.value ∧
        following.IsFraction (state.mediant quotient) ∧
        expand (passes + 1) number older newer =
          if fraction.isZero then
            .ok following
          else
            (Decimal.ofInt 1).div precision fraction >>= fun reciprocal =>
              expand passes reciprocal newer following := by
  by_cases above : 2147483647 < number.value
  · left
    refine ⟨expand_of_gt _ above, follows.settled_of_beyond ?_⟩
    intro times below
    have : (times + 1 : ℚ) ≤ 2147483647 := by exact_mod_cast Division.times_lt below
    linarith
  have below := not_lt.mp above
  obtain ⟨quotient, floor, quotientSmall⟩ := exists_floor follows.number_nonneg below
  obtain ⟨fraction, following, fractionRounded, followingIs, equation⟩ :=
    expand_succ passes below floor follows.older follows.newer
      (multiplyAdd_few quotientSmall follows.newerBelow.1 follows.olderBelow.1)
      (multiplyAdd_few quotientSmall follows.newerBelow.2 follows.olderBelow.2)
  by_cases inRange : Below (state.mediant quotient)
  · right
    have ⟨numeratorBelow, denominatorBelow⟩ := inRange
    unfold Division.mediant at numeratorBelow denominatorBelow
    rw [if_neg (by omega)] at equation
    exact ⟨quotient, fraction, following, floor, inRange, fractionRounded, followingIs, equation⟩
  · left
    have outOfRange : 2147483647 ≤ quotient * state.newer.2 + state.older.2 ∨
        2147483647 ≤ quotient * state.newer.1 + state.older.1 := by
      unfold Below Division.mediant at inRange
      omega
    rw [if_pos outOfRange] at equation
    refine ⟨equation, follows.settled_of_beyond ?_⟩
    intro times belowTimes
    have fewer : times + 1 ≤ quotient := by
      by_contra more
      exact inRange (Division.below_mediant belowTimes (by omega))
    have fewerQ : (times + 1 : ℚ) ≤ quotient := by exact_mod_cast fewer
    have atMost := Int.floor_le number.value
    rw [floor, Int.cast_natCast] at atMost
    exact fewerQ.trans atMost

/-- One pass from a number whose rest is seen: the expansion ends at a settled convergent, or goes
on with the division's next step. -/
theorem Follows.pass (follows : Follows state (passes + 1) number older newer)
    (visible : Visible number.value) :
    (∃ result, expand (passes + 1) number older newer = .ok result ∧ result.IsSettled x) ∨
      ∃ quotient reciprocal following,
        expand (passes + 1) number older newer = expand passes reciprocal newer following ∧
        Visible reciprocal.value ∧
        Follows (state.next quotient) passes reciprocal newer following := by
  rcases follows.expand_cases with
    ⟨equation, settled⟩ |
      ⟨quotient, fraction, following, floor, inRange, fractionRounded, followingIs, equation⟩
  · exact .inl ⟨newer, equation, state, follows.newer, settled⟩
  have remainderError := follows.error_le
  rw [← state.remainder_eq floor] at remainderError
  rcases visible with even | remainderLarge
  · -- nothing is left of the number; what the division leaves is no more than the error
    left
    rw [even] at fractionRounded
    have small : (state.next quotient).divisor * state.divisor < 1 / 10 ^ 21 := by
      have := mul_le_mul_of_nonneg_right (le_abs_self (state.next quotient).divisor)
        follows.divisor_pos.le
      rw [even, zero_mul, zero_sub, abs_neg] at remainderError
      norm_num at remainderError ⊢
      linarith
    rw [equation, if_pos (isZero_of_rounded fractionRounded)]
    exact ⟨following, rfl, follows.isSettled_of_small floor inRange small followingIs⟩
  have positive : 0 < Int.fract number.value := lt_of_lt_of_le (by norm_num) remainderLarge
  obtain ⟨roundedError, nonzero, reciprocal, divided, representable, improper, reciprocalError⟩ :=
    exists_reciprocal fractionRounded remainderLarge (Int.fract_lt_one _).le
  rw [nonzero, if_neg (by simp), divided] at equation
  by_cases small : (state.next quotient).divisor * state.divisor < 1 / 10 ^ 21
  · left
    have denominatorPositive := follows.one_le_mediant floor
    have far := reciprocal_far follows.divisor_pos (by exact_mod_cast denominatorPositive)
      (by exact_mod_cast inRange.2.le) (follows.share floor) remainderError small.le positive
      roundedError
      reciprocalError
    rw [equation]
    exact ⟨following, expand_of_far passes follows.newer followingIs follows.newerBelow inRange far,
      follows.isSettled_of_small floor inRange small followingIs⟩
  · right
    exact ⟨quotient, reciprocal, following, equation,
      visible_of_representable representable improper,
      follows.next floor inRange (not_lt.mp small) followingIs positive improper roundedError
      reciprocalError⟩

/-- The expansion of a number whose rest is seen ends at a settled convergent. -/
theorem Follows.run (follows : Follows state passes number older newer)
    (visible : Visible number.value) :
    ∃ result, expand passes number older newer = .ok result ∧ result.IsSettled x := by
  induction passes generalizing state number older newer with
  | zero =>
    have ⟨_, newerBelow⟩ := follows.newerBelow
    have ⟨_, olderBelow⟩ := follows.olderBelow
    have enough := follows.enough
    unfold Division.growth at enough
    nlinarith
  | succ passes inductionHypothesis =>
    rcases follows.pass visible with ended |
      ⟨quotient, reciprocal, following, equation, visibleNext, followsNext⟩
    · exact ended
    · rw [equation]
      exact inductionHypothesis followsNext visibleNext

end Pass

/-! ### The whole expansion -/

/-- What is left of a number, if it is too little to be seen, has a reciprocal far beyond the bound,
if any. -/
theorem reciprocal_of_tiny {remainder : ℚ} {fraction reciprocal : Decimal}
    (nonnegative : 0 ≤ remainder)
    (tiny : remainder ≤ 1 / 10 ^ 27) (fractionRounded : Rounded precision remainder fraction.value)
    (nonzero : fraction.isZero = false)
    (divided : (Decimal.ofInt 1).div precision fraction = .ok reciprocal) :
    10 ^ 27 ≤ reciprocal.value := by
  have unitFits : Representable precision (1 / 10 ^ 27) := by
    have fits := representable_tens one_le_precision (show leastExponent precision ≤ -27 by decide)
    norm_num at fits ⊢
    exact fits
  have greatFits : Representable precision (10 ^ 27) := by
    exact_mod_cast representable_natCast (show 10 ^ 27 < 10 ^ precision by decide)
  have fractionNonzero : fraction.value ≠ 0 := by
    rwa [Ne, ← isZero_iff, Bool.not_eq_true]
  have fractionPositive : 0 < fraction.value :=
    lt_of_le_of_ne (fractionRounded.le_rounded representable_zero nonnegative) fractionNonzero.symm
  have fractionTiny := fractionRounded.rounded_le unitFits tiny
  have rounded := rounded_of_div one_le_precision fractionNonzero divided
  apply rounded.le_rounded greatFits
  rw [value_ofInt, Int.cast_one, le_div_iff₀ fractionPositive]
  norm_num at fractionTiny ⊢
  linarith

/-- If the expansion of a number has a result, that is settled. -/
theorem isSettled_of_approximate {number : Decimal} {result : Convergent}
    (nonnegative : 0 ≤ number.value)
    (approximated : approximate number = .ok result) : result.IsSettled number.value := by
  have follows := follows_start nonnegative
  by_cases visible : Visible number.value
  · obtain ⟨found, expanded, settled⟩ := follows.run visible
    cases approximated.symm.trans expanded
    exact settled
  · -- the first pass is also the last one that takes a convergent
    have tiny : Int.fract number.value ≤ 1 / 10 ^ 27 := (not_le.mp (not_or.mp visible).2).le
    unfold approximate at approximated
    rcases follows.expand_cases with
      ⟨equation, settled⟩ |
        ⟨quotient, fraction, following, floor, inRange, fractionRounded, followingIs, equation⟩
    · rw [equation] at approximated
      cases approximated
      exact ⟨_, follows.newer, settled⟩
    · rw [equation] at approximated
      have small : ((Division.start number.value).next quotient).divisor * 1 < 1 / 10 ^ 21 := by
        have remainder := (Division.start number.value).remainder_eq floor
        change Int.fract number.value * 1 - _ = number.value * 1 - number.value at remainder
        norm_num at tiny ⊢
        linarith
      have settled := follows.isSettled_of_small floor inRange small followingIs
      split_ifs at approximated with zero
      · cases approximated
        exact settled
      · match divided : (Decimal.ofInt 1).div precision fraction with
        | .error condition =>
          rw [divided] at approximated
          cases approximated
        | .ok reciprocal =>
          have great := reciprocal_of_tiny (Int.fract_nonneg _) tiny fractionRounded
            (Bool.eq_false_of_not_eq_true zero)
            divided
          have bottom : (1 : ℚ) ≤ ((Division.start number.value).mediant quotient).2 := by
            exact_mod_cast follows.one_le_mediant floor
          have far : 2147483647 ≤
              (reciprocal.value - 1) * ((Division.start number.value).mediant quotient).2 := by
            norm_num at great
            have := le_mul_of_one_le_right (show 0 ≤ reciprocal.value - 1 by linarith) bottom
            linarith
          have expanded := expand_of_far 63 follows.newer followingIs follows.newerBelow inRange far
          rw [divided] at approximated
          change expand 63 reciprocal formalConvergents.2 following = .ok result at approximated
          cases approximated.symm.trans expanded
          exact settled

/-- The expansion of a fraction in lowest terms with both parts in range ends at that fraction. -/
theorem approximate_of_value {n d : Nat} (nSmall : n < 2147483647) (dSmall : d < 2147483647)
    (dPositive : 0 < d)
    {number : Decimal} (coprime : n.Coprime d) (value : number.value = n / d) :
    ∃ result, approximate number = .ok result ∧ result.IsFraction (n, d) := by
  have positive : 0 ≤ number.value := by
    rw [value]
    positivity
  have visible : Visible number.value := by
    rw [value]
    exact visible_natCast_div n dPositive dSmall
  obtain ⟨result, expanded, last, isFraction, settled⟩ := (follows_start positive).run visible
  rw [settled.newer_eq ⟨nSmall, dSmall⟩ dPositive coprime value] at isFraction
  exact ⟨result, expanded, isFraction⟩

end LedgerWire.Price
