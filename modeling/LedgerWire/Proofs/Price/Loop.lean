import LedgerWire.Proofs.Outcome
import LedgerWire.Proofs.Price.Expansion

/-!
Contract: the expansion as a loop. A pass either ends the loop or leaves a number and two
convergents for another pass; the loop goes on until a pass ends it, however many that takes. If it
ends in so many passes, `expand` has the same outcome with that limit and with every higher one.

Owns:
- `Price.pass` and `Price.run`, and that `expand` is the loop with a limit;
- `Price.Takes`, the convergents that a pass takes, and what is left of the number then;
- that a run keeps what every convergent taken keeps.

Does not own: how many passes there are.
-/

namespace LedgerWire.Price

open Decimal

variable {number reciprocal : Decimal} {older newer second third : Convergent}

/-! ### Passes and runs -/

/-- What a pass comes to: the outcome of the loop, or the number and the convergents for another
pass. -/
inductive Pass where
  | ends (outcome : Except Condition Convergent)
  | goesOn (number : Decimal) (older newer : Convergent)

/-- A failure ends the loop; otherwise it is up to the rest of the pass. -/
def Pass.after {α : Type} (step : Except Condition α) (rest : α → Pass) : Pass :=
  match step with
  | .error condition => .ends (.error condition)
  | .ok value => rest value

/-- The outcome of a pass, or of what goes on from it. -/
def Pass.resume (further : Decimal → Convergent → Convergent → Except Condition Convergent) :
    Pass → Except Condition Convergent
  | .ends outcome => outcome
  | .goesOn number older newer => further number older newer

section Resume

variable (further : Decimal → Convergent → Convergent → Except Condition Convergent)

@[simp] theorem Pass.resume_ends (outcome : Except Condition Convergent) :
    (Pass.ends outcome).resume further = outcome := rfl

@[simp] theorem Pass.resume_goesOn (number : Decimal) (older newer : Convergent) :
    (Pass.goesOn number older newer).resume further = further number older newer := rfl

@[simp] theorem Pass.resume_after {α : Type} (step : Except Condition α) (rest : α → Pass) :
    (Pass.after step rest).resume further = step >>= fun value => (rest value).resume further := by
  cases step <;> rfl

end Resume

def pass (number : Decimal) (older newer : Convergent) : Pass :=
  if number.compare partBound == .gt then
    .ends (.ok newer)
  else
    .after (number.sub precision number.floor) fun fraction =>
      .after (older.next newer number.floor) fun next =>
        if next.denominator.compare partBound != .lt || next.numerator.compare partBound != .lt then
          .ends (.ok newer)
        else if fraction.isZero then
          .ends (.ok next)
        else
          .after ((Decimal.ofInt 1).div precision fraction) fun reciprocal =>
            .goesOn reciprocal newer next

/-- The outcome of the loop, if it ends within so many passes. -/
def run :
    (passes : Nat) → Decimal → (older newer : Convergent) → Option (Except Condition Convergent)
  | 0, _, _, _ => none
  | passes + 1, number, older, newer =>
    match pass number older newer with
    | .ends outcome => some outcome
    | .goesOn reciprocal second third => run passes reciprocal second third

theorem run_of_ends {outcome : Except Condition Convergent} (passes : Nat)
    (ends : pass number older newer = .ends outcome) :
    run (passes + 1) number older newer = some outcome := by
  rw [run, ends]

theorem run_of_goesOn (passes : Nat)
    (goesOn : pass number older newer = .goesOn reciprocal second third) :
    run (passes + 1) number older newer = run passes reciprocal second third := by
  rw [run, goesOn]

/-- What a pass comes to is what the expansion does in its first step. -/
theorem expand_succ_eq_pass (passes : Nat) (number : Decimal) (older newer : Convergent) :
    expand (passes + 1) number older newer = (pass number older newer).resume (expand passes) := by
  unfold pass
  rw [expand]
  simp only [apply_ite (Pass.resume _), Pass.resume_after, Pass.resume_ends, Pass.resume_goesOn]
  rfl

theorem expand_of_run {passes limit : Nat} {outcome : Except Condition Convergent}
    (ended : run passes number older newer = some outcome) (within : passes ≤ limit) :
    expand limit number older newer = outcome := by
  induction passes generalizing limit number older newer with
  | zero => cases ended
  | succ passes inductionHypothesis =>
    obtain ⟨limit, rfl⟩ : ∃ more, limit = more + 1 := ⟨limit - 1, by omega⟩
    rw [expand_succ_eq_pass]
    cases came : pass number older newer with
    | ends result =>
      rw [run_of_ends passes came] at ended
      rw [Pass.resume_ends]
      exact Option.some.inj ended
    | goesOn reciprocal second third =>
      rw [run_of_goesOn passes came] at ended
      exact inductionHypothesis ended (by omega)

/-! ### Bounds on a product and a sum -/

section Bounds

variable {whole part older result : Decimal} {product sum : ℚ}

theorem le_multiplyAdd (representableProduct : Representable precision product)
    (representableSum : Representable precision sum)
    (productLe : product ≤ whole.value * part.value)
    (sumLe : sum ≤ product + older.value)
    (computed : (whole.mul precision part >>= fun product => product.add precision older) =
      .ok result) :
    sum ≤ result.value := by
  rw [Outcome.bind_eq_ok_iff] at computed
  rcases computed with ⟨rounded, multiplied, added⟩
  have productBelow :=
    (rounded_of_mul one_le_precision multiplied).le_rounded representableProduct productLe
  exact (rounded_of_add one_le_precision added).le_rounded representableSum (by linarith)

theorem multiplyAdd_le (representableProduct : Representable precision product)
    (representableSum : Representable precision sum)
    (productLe : whole.value * part.value ≤ product)
    (sumLe : product + older.value ≤ sum)
    (computed : (whole.mul precision part >>= fun product => product.add precision older) =
      .ok result) :
    result.value ≤ sum := by
  rw [Outcome.bind_eq_ok_iff] at computed
  rcases computed with ⟨rounded, multiplied, added⟩
  have productAbove :=
    (rounded_of_mul one_le_precision multiplied).rounded_le representableProduct productLe
  exact (rounded_of_add one_le_precision added).rounded_le representableSum (by linarith)

end Bounds

/-! ### What a pass takes -/

theorem next_eq_ok {whole : Decimal} {next : Convergent}
    (made : older.next newer whole = .ok next) :
    (whole.mul precision newer.numerator >>= fun product => product.add precision older.numerator) =
        .ok next.numerator ∧
      (whole.mul precision newer.denominator >>= fun product =>
        product.add precision older.denominator) =
        .ok next.denominator := by
  unfold Convergent.next at made
  rw [Outcome.bind_eq_ok_iff] at made
  rcases made with ⟨numeratorProduct, numeratorMultiplied, made⟩
  rw [Outcome.bind_eq_ok_iff] at made
  rcases made with ⟨numerator, numeratorAdded, made⟩
  rw [Outcome.bind_eq_ok_iff] at made
  rcases made with ⟨denominatorProduct, denominatorMultiplied, made⟩
  rw [Outcome.bind_eq_ok_iff] at made
  rcases made with ⟨denominator, denominatorAdded, made⟩
  cases made
  exact ⟨Outcome.bind_eq_ok_iff.mpr ⟨_, numeratorMultiplied, numeratorAdded⟩,
    Outcome.bind_eq_ok_iff.mpr ⟨_, denominatorMultiplied, denominatorAdded⟩⟩

theorem one_le_floor (one : 1 ≤ number.value) : 1 ≤ number.floor.value := by
  rw [value_floor]
  exact_mod_cast Int.le_floor.mpr (by exact_mod_cast one)

/-- What is left of a number is below one, so its reciprocal is not. -/
theorem one_le_reciprocal {fraction reciprocal : Decimal}
    (subtracted : number.sub precision number.floor = .ok fraction) (nonzero : fraction.value ≠ 0)
    (divided : (Decimal.ofInt 1).div precision fraction = .ok reciprocal) :
    1 ≤ reciprocal.value := by
  have fractionRounded := rounded_of_sub one_le_precision subtracted
  rw [value_floor] at fractionRounded
  have nonnegative : 0 ≤ fraction.value :=
    fractionRounded.le_rounded representable_zero (sub_nonneg.mpr (Int.floor_le _))
  have proper : fraction.value ≤ 1 :=
    fractionRounded.rounded_le representable_one (by linarith [Int.lt_floor_add_one number.value])
  have positive : 0 < fraction.value := lt_of_le_of_ne nonnegative (Ne.symm nonzero)
  have reciprocalRounded := rounded_of_div one_le_precision nonzero divided
  rw [value_ofInt, Int.cast_one] at reciprocalRounded
  exact reciprocalRounded.le_rounded representable_one ((one_le_div positive).mpr proper)

/-- Whether a pass takes this convergent: the next one of a number up to the bound, with both parts
below it. -/
structure Takes (number : Decimal) (older newer next : Convergent) : Prop where
  below : number.value ≤ 2147483647
  made : older.next newer number.floor = .ok next
  denominator_lt : next.denominator.value < 2147483647
  numerator_lt : next.numerator.value < 2147483647

theorem Pass.after_eq_goesOn_iff {α : Type} {step : Except Condition α} {rest : α → Pass} :
    Pass.after step rest = .goesOn reciprocal second third ↔
      ∃ value, step = .ok value ∧ rest value = .goesOn reciprocal second third := by
  cases step <;> simp [Pass.after]

theorem Pass.after_eq_ends_ok_iff {α : Type} {step : Except Condition α} {rest : α → Pass}
    {result : Convergent} :
    Pass.after step rest = .ends (.ok result) ↔ ∃ value, step = .ok value ∧
      rest value = .ends (.ok result) := by
  cases step <;> simp [Pass.after]

theorem takes_of_inRange {next : Convergent} (notAbove : ¬ (number.compare partBound == .gt) = true)
    (made : older.next newer number.floor = .ok next)
    (inRange : ¬ (next.denominator.compare partBound != .lt ||
      next.numerator.compare partBound != .lt) = true) :
    Takes number older newer next := by
  simp only [Bool.or_eq_true, bne_iff_ne, ne_eq, not_or, not_not, compare_eq_lt_iff,
    value_partBound] at inRange
  exact ⟨beq_gt_partBound.mp (Bool.eq_false_of_not_eq_true notAbove), made, inRange.1, inRange.2⟩

/-- A pass that takes a convergent ends the loop there if nothing is left of the number. -/
theorem Takes.pass_eq {next : Convergent} (takes : Takes number older newer next)
    {fraction : Decimal}
    (subtracted : number.sub precision number.floor = .ok fraction) :
    pass number older newer =
      if fraction.isZero then
        .ends (.ok next)
      else
        .after ((Decimal.ofInt 1).div precision fraction) fun reciprocal =>
          .goesOn reciprocal newer next := by
  have inRange : (next.denominator.compare partBound != .lt ||
      next.numerator.compare partBound != .lt) = false := by
    rw [Bool.or_eq_false_iff, bne_eq_false_iff_eq, bne_eq_false_iff_eq, compare_eq_lt_iff,
      compare_eq_lt_iff, value_partBound]
    exact ⟨takes.denominator_lt, takes.numerator_lt⟩
  unfold pass
  rw [beq_gt_partBound.mpr takes.below, subtracted, takes.made]
  simp only [Pass.after, inRange, Bool.false_eq_true, if_false]

/-- The loop ends with the newer convergent if the number is above the bound. -/
theorem pass_of_gt (above : 2147483647 < number.value) :
    pass number older newer = .ends (.ok newer) := by
  rw [← value_partBound, ← compare_eq_gt_iff] at above
  unfold pass
  rw [above]
  rfl

/-- The loop goes on from a convergent that is taken, with a number that is not below one. -/
theorem takes_of_goesOn (goesOn : pass number older newer = .goesOn reciprocal second third) :
    second = newer ∧ Takes number older newer third ∧ 1 ≤ reciprocal.value := by
  unfold pass at goesOn
  split_ifs at goesOn with above
  obtain ⟨fraction, subtracted, goesOn⟩ := Pass.after_eq_goesOn_iff.mp goesOn
  obtain ⟨next, made, goesOn⟩ := Pass.after_eq_goesOn_iff.mp goesOn
  split_ifs at goesOn with outOfRange zero
  obtain ⟨reciprocal, divided, same⟩ := Pass.after_eq_goesOn_iff.mp goesOn
  cases same
  have nonzero : fraction.value ≠ 0 := by rwa [isZero_iff] at zero
  exact ⟨rfl, takes_of_inRange above made outOfRange, one_le_reciprocal subtracted nonzero divided⟩

/-- The loop ends with the newer convergent, or with one that is taken. -/
theorem eq_or_takes_of_ends {result : Convergent}
    (ends : pass number older newer = .ends (.ok result)) :
    result = newer ∨ Takes number older newer result := by
  unfold pass at ends
  split_ifs at ends with above
  · cases ends
    exact Or.inl rfl
  obtain ⟨fraction, subtracted, ends⟩ := Pass.after_eq_ends_ok_iff.mp ends
  obtain ⟨next, made, ends⟩ := Pass.after_eq_ends_ok_iff.mp ends
  split_ifs at ends with outOfRange zero
  · cases ends
    exact Or.inl rfl
  · cases ends
    exact Or.inr (takes_of_inRange above made outOfRange)
  · obtain ⟨reciprocal, -, impossible⟩ := Pass.after_eq_ends_ok_iff.mp ends
    cases impossible

/-! ### What a run keeps -/

section Kept

variable {Kept : Convergent → Convergent → Prop} {passes : Nat} {result : Convergent}
  (taken : ∀ ⦃number older newer next⦄, Kept older newer → 1 ≤ number.value →
    Takes number older newer next →
    Kept newer next)

include taken

/-- What is kept by every convergent that is taken holds of the last one. -/
theorem exists_kept_of_run (one : 1 ≤ number.value) (kept : Kept older newer)
    (ended : run passes number older newer = some (.ok result)) : ∃ before, Kept before result := by
  induction passes generalizing number older newer with
  | zero => cases ended
  | succ passes inductionHypothesis =>
    cases came : pass number older newer with
    | ends outcome =>
      rw [run_of_ends passes came] at ended
      cases ended
      rcases eq_or_takes_of_ends came with rfl | takes
      · exact ⟨older, kept⟩
      · exact ⟨newer, taken kept one takes⟩
    | goesOn reciprocal second third =>
      rw [run_of_goesOn passes came] at ended
      obtain ⟨rfl, takes, improper⟩ := takes_of_goesOn came
      exact inductionHypothesis improper (taken kept one takes) ended

/-- From the formal convergents on, whatever the number is, the first one that is taken has to be
looked at by itself. -/
theorem eq_or_exists_kept_of_run
    (first : ∀ ⦃next⦄, Takes number formalConvergents.1 formalConvergents.2 next →
      Kept formalConvergents.2 next)
    (ended : run passes number formalConvergents.1 formalConvergents.2 = some (.ok result)) :
    result = formalConvergents.2 ∨ ∃ before, Kept before result := by
  cases passes with
  | zero => cases ended
  | succ passes =>
    cases came : pass number formalConvergents.1 formalConvergents.2 with
    | ends outcome =>
      rw [run_of_ends passes came] at ended
      cases ended
      rcases eq_or_takes_of_ends came with formal | takes
      · exact Or.inl formal
      · exact Or.inr ⟨_, first takes⟩
    | goesOn reciprocal second third =>
      rw [run_of_goesOn passes came] at ended
      obtain ⟨rfl, takes, improper⟩ := takes_of_goesOn came
      exact Or.inr (exists_kept_of_run taken improper (first takes) ended)

end Kept

end LedgerWire.Price
