import Mathlib.Algebra.Order.Field.Rat
import Mathlib.Tactic.FieldSimp
import Mathlib.Tactic.Linarith
import Mathlib.Tactic.LinearCombination
import Mathlib.Tactic.Positivity
import LedgerWire.Power

/-!
Contract: which fraction with parts up to a bound is the nearest to a number. Between two fractions
whose cross products differ by one there is none whose parts are not at least the sums of theirs; so
of a fraction and its last neighbour on the number's side, one is the nearest.

Owns:
- `Nearest`, and `Neighbour`, the fraction that a nearest one has to be compared with;
- that this one comparison decides.

Does not own: how such fractions are found.
-/

namespace LedgerWire.Price

/-- The number that two parts make as a fraction. -/
def ratio (parts : Nat × Nat) : ℚ := parts.1 / parts.2

/-- Whether the parts of a fraction are from one to a bound. -/
structure Within (most : Nat) (parts : Nat × Nat) : Prop where
  numerator_pos : 1 ≤ parts.1
  denominator_pos : 1 ≤ parts.2
  numerator_le : parts.1 ≤ most
  denominator_le : parts.2 ≤ most

/-- Whether no fraction with parts up to a bound is nearer to a number. -/
def Nearest (most : Nat) (x : ℚ) (parts : Nat × Nat) : Prop :=
  ∀ other, Within most other → |x - ratio parts| ≤ |x - ratio other|

/-- Whether a number lies strictly between two others. -/
def Between (x first second : ℚ) : Prop := first < x ∧ x < second ∨ second < x ∧ x < first

/-- Whether the cross products of two fractions differ by one. -/
def Adjacent (first second : Nat × Nat) : Prop :=
  first.1 * second.2 = second.1 * first.2 + 1 ∨ second.1 * first.2 = first.1 * second.2 + 1

/-- Whether a fraction is the last of those next to another one on a number's side of it: the sums
of their parts are beyond the bound. -/
structure Neighbour (most : Nat) (x : ℚ) (near far : Nat × Nat) : Prop where
  within : Within most far
  adjacent : Adjacent near far
  side : ratio near ≤ x ∧ ratio near < ratio far ∨ x ≤ ratio near ∧ ratio far < ratio near
  last : most < near.1 + far.1 ∨ most < near.2 + far.2

theorem ratio_lt_ratio_iff {first second : Nat × Nat} (firstPositive : 1 ≤ first.2)
    (secondPositive : 1 ≤ second.2) :
    ratio first < ratio second ↔ first.1 * second.2 < second.1 * first.2 := by
  have firstPositiveQ : (0 : ℚ) < first.2 := by exact_mod_cast firstPositive
  have secondPositiveQ : (0 : ℚ) < second.2 := by exact_mod_cast secondPositive
  unfold ratio
  rw [div_lt_div_iff₀ firstPositiveQ secondPositiveQ]
  exact_mod_cast Iff.rfl

theorem Adjacent.symm {first second : Nat × Nat} (adjacent : Adjacent first second) :
    Adjacent second first :=
  adjacent.elim .inr .inl

/-- A fraction between two adjacent ones is made up of both. -/
theorem add_le_of_between {low high other : Nat × Nat}
    (adjacent : high.1 * low.2 = low.1 * high.2 + 1)
    (above : low.1 * other.2 < other.1 * low.2) (below : other.1 * high.2 < high.1 * other.2) :
    low.1 + high.1 ≤ other.1 ∧ low.2 + high.2 ≤ other.2 := by
  obtain ⟨fromLow, fromLow_eq⟩ := Nat.exists_eq_add_of_lt below
  obtain ⟨fromHigh, fromHigh_eq⟩ := Nat.exists_eq_add_of_lt above
  have numerator : other.1 = low.1 * (fromLow + 1) + high.1 * (fromHigh + 1) := by
    zify at adjacent fromLow_eq fromHigh_eq ⊢
    linear_combination -(other.1 : Int) * adjacent + (high.1 : Int) * fromHigh_eq +
      (low.1 : Int) * fromLow_eq
  have denominator : other.2 = low.2 * (fromLow + 1) + high.2 * (fromHigh + 1) := by
    zify at adjacent fromLow_eq fromHigh_eq ⊢
    linear_combination -(other.2 : Int) * adjacent + (high.2 : Int) * fromHigh_eq +
      (low.2 : Int) * fromLow_eq
  rw [numerator, denominator]
  constructor
  · exact Nat.add_le_add (Nat.le_mul_of_pos_right _ fromLow.succ_pos)
      (Nat.le_mul_of_pos_right _ fromHigh.succ_pos)
  · exact Nat.add_le_add (Nat.le_mul_of_pos_right _ fromLow.succ_pos)
      (Nat.le_mul_of_pos_right _ fromHigh.succ_pos)

theorem abs_sub_le_of_outside {x near far other : ℚ} (right : near ≤ x) (farther : near < far)
    (notNearer : |x - near| ≤ |x - far|) (outside : other ≤ near ∨ far ≤ other) :
    |x - near| ≤ |x - other| := by
  have distance : |x - near| = x - near := abs_of_nonneg (by linarith)
  rcases outside with beyondNear | beyondFar
  · linarith [le_abs_self (x - other)]
  · rcases le_total x far with before | behind
    · have : |x - far| = -(x - far) := abs_of_nonpos (by linarith)
      linarith [neg_le_abs (x - other)]
    · have : |x - far| = x - far := abs_of_nonneg (by linarith)
      linarith

section Neighbour

variable {most : Nat} {x : ℚ} {near far other : Nat × Nat}

theorem add_le_of_adjacent (adjacent : Adjacent near far) (nearPositive : 1 ≤ near.2)
    (farPositive : 1 ≤ far.2)
    (otherPositive : 1 ≤ other.2) (between : Between (ratio other) (ratio near) (ratio far)) :
    near.1 + far.1 ≤ other.1 ∧ near.2 + far.2 ≤ other.2 := by
  unfold Between at between
  simp only [ratio_lt_ratio_iff, nearPositive, farPositive, otherPositive] at between
  rcases adjacent with greater | less <;> rcases between with ⟨above, below⟩ | ⟨above, below⟩
  · nlinarith
  · have := add_le_of_between greater above below
    omega
  · exact add_le_of_between less above below
  · nlinarith

/-- A fraction is the nearest if its neighbour on the number's side is not nearer. -/
theorem nearest_iff (nearPositive : 1 ≤ near.2) (neighbour : Neighbour most x near far) :
    Nearest most x near ↔ |x - ratio near| ≤ |x - ratio far| := by
  constructor
  · intro nearest
    exact nearest far neighbour.within
  · intro notNearer other within
    have outside : ¬ Between (ratio other) (ratio near) (ratio far) := by
      intro between
      have := add_le_of_adjacent neighbour.adjacent nearPositive neighbour.within.denominator_pos
        within.denominator_pos between
      have := neighbour.last
      have := within.numerator_le
      have := within.denominator_le
      omega
    unfold Between at outside
    rcases neighbour.side with ⟨right, farther⟩ | ⟨left, farther⟩
    · apply abs_sub_le_of_outside right farther notNearer
      by_contra inside
      push Not at inside
      exact outside (.inl inside)
    · -- the same on the other side of zero
      have mirror (y : ℚ) : |x - y| = |-x - -y| := by rw [neg_sub_neg, abs_sub_comm]
      rw [mirror, mirror (ratio far)] at notNearer
      rw [mirror, mirror (ratio other)]
      apply abs_sub_le_of_outside (neg_le_neg left) (neg_lt_neg farther) notNearer
      by_contra inside
      push Not at inside
      exact outside (.inr ⟨neg_lt_neg_iff.mp inside.2, neg_lt_neg_iff.mp inside.1⟩)

end Neighbour

end LedgerWire.Price
