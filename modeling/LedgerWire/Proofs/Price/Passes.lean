import Mathlib.Data.Nat.Fib.Basic
import Mathlib.Tactic.NormNum.NatFib
import LedgerWire.Proofs.Price.Loop

/-!
Contract: how many passes the expansion takes. After the first pass the number that is left is not
below one, however its reciprocal was rounded, so each denominator is at least the sum of the two
before it. They grow like the Fibonacci numbers, the forty-seventh of which is beyond the bound: no
run has more than forty-seven passes.

Owns:
- the denominators that are taken, as natural numbers;
- `Price.run_approximate`: for every number the loop ends within forty-seven passes;
- what becomes of a number behind the first pass, and what holds of the convergent that is found.

Does not own: what the convergents are.
-/

namespace LedgerWire.Price

open Decimal

variable {number : Decimal} {older newer next : Convergent} {olderPart newerPart : Nat}

/-- Whether a convergent has this denominator, below the bound. -/
structure Convergent.Over (convergent : Convergent) (part : Nat) : Prop where
  denominator : convergent.denominator.value = part
  part_lt : part < 2147483647

theorem over_formal : formalConvergents.1.Over 1 ∧ formalConvergents.2.Over 0 := by
  constructor
  · exact ⟨by simp [formalConvergents], by norm_num⟩
  · exact ⟨by simp [formalConvergents], by norm_num⟩

theorem denominator_first {whole : Decimal}
    (made : formalConvergents.1.next formalConvergents.2 whole = .ok next) :
    next.denominator.value = 1 := by
  have zero : whole.value * formalConvergents.2.denominator.value = 0 := by simp [formalConvergents]
  have sum : 0 + formalConvergents.1.denominator.value = 1 := by simp [formalConvergents]
  have computed := (next_eq_ok made).2
  exact le_antisymm (multiplyAdd_le representable_zero representable_one zero.le sum.le computed)
    (le_multiplyAdd representable_zero representable_one zero.ge sum.ge computed)

/-- The denominator of the first convergent that is taken is one. -/
theorem Takes.over_one (takes : Takes number formalConvergents.1 formalConvergents.2 next) :
    next.Over 1 where
  denominator := by
    rw [denominator_first takes.made, Nat.cast_one]
  part_lt := by norm_num

/-- A denominator is the one before it as often as the number says, and the one before that. -/
theorem Takes.exists_over (takes : Takes number older newer next) (olderOver : older.Over olderPart)
    (newerOver : newer.Over newerPart) (one : 1 ≤ number.value) :
    ∃ whole : Nat, number.floor.value = whole ∧ 1 ≤ whole ∧ whole ≤ 2147483647 ∧
      next.Over (whole * newerPart + olderPart) := by
  obtain ⟨whole, floor, wholeLe⟩ := exists_floor (by linarith) takes.below
  have wholeValue : number.floor.value = whole := by
    rw [value_floor, floor, Int.cast_natCast]
  have few := multiplyAdd_few wholeLe newerOver.part_lt olderOver.part_lt
  obtain ⟨denominator, made, value⟩ :=
    exists_multiplyAdd wholeValue newerOver.denominator olderOver.denominator few
  obtain rfl : next.denominator = denominator :=
    Except.ok.inj ((next_eq_ok takes.made).2.symm.trans made)
  refine ⟨whole, wholeValue, one_le_of_floor floor one, wholeLe, value, ?_⟩
  have small := takes.denominator_lt
  rw [value] at small
  exact_mod_cast small

/-- A run whose denominators have grown for some passes ends in what is left of forty-seven. -/
theorem exists_run {left done : Nat} (counted : done + 1 + left = 47)
    (olderOver : older.Over olderPart)
    (newerOver : newer.Over newerPart) (olderGrown : Nat.fib done ≤ olderPart)
    (newerGrown : Nat.fib (done + 1) ≤ newerPart) (one : 1 ≤ number.value) :
    ∃ outcome, run left number older newer = some outcome := by
  induction left generalizing number older newer olderPart newerPart done with
  | zero =>
    -- the forty-seventh Fibonacci number is no denominator in range
    have beyond : 2147483647 < Nat.fib (done + 1) := by
      rw [counted]
      norm_num
    exact absurd newerOver.part_lt (by omega)
  | succ left inductionHypothesis =>
    cases came : pass number older newer with
    | ends outcome => exact ⟨outcome, run_of_ends left came⟩
    | goesOn reciprocal second third =>
      obtain ⟨rfl, takes, improper⟩ := takes_of_goesOn came
      obtain ⟨whole, -, wholePositive, -, thirdOver⟩ := takes.exists_over olderOver newerOver one
      rw [run_of_goesOn left came]
      refine inductionHypothesis (by omega) newerOver thirdOver newerGrown ?_ improper
      calc Nat.fib (done + 2) = Nat.fib done + Nat.fib (done + 1) := Nat.fib_add_two
        _ ≤ olderPart + newerPart := Nat.add_le_add olderGrown newerGrown
        _ = newerPart + olderPart := Nat.add_comm _ _
        _ ≤ whole * newerPart + olderPart :=
          Nat.add_le_add_right (Nat.le_mul_of_pos_left newerPart wholePositive) olderPart

/-- Whatever the number is, the loop ends within forty-seven passes, with the outcome of the
expansion. -/
theorem run_approximate (number : Decimal) :
    run 47 number formalConvergents.1 formalConvergents.2 = some (approximate number) := by
  have ended : ∃ outcome, run 47 number formalConvergents.1 formalConvergents.2 = some outcome := by
    cases came : pass number formalConvergents.1 formalConvergents.2 with
    | ends outcome => exact ⟨outcome, run_of_ends 46 came⟩
    | goesOn reciprocal second third =>
      obtain ⟨rfl, takes, improper⟩ := takes_of_goesOn came
      rw [run_of_goesOn 46 came]
      exact exists_run rfl over_formal.2 takes.over_one le_rfl le_rfl improper
  obtain ⟨outcome, ended⟩ := ended
  rw [ended]
  exact congrArg some (expand_of_run ended (by decide)).symm

/-- What is kept by every convergent that is taken, from the first one on, holds of the one that is
found. -/
theorem eq_or_exists_kept_of_approximate {Kept : Convergent → Convergent → Prop}
    {result : Convergent}
    (taken : ∀ ⦃number older newer next⦄, Kept older newer → 1 ≤ number.value →
      Takes number older newer next →
      Kept newer next)
    (first : ∀ ⦃next⦄, Takes number formalConvergents.1 formalConvergents.2 next →
      Kept formalConvergents.2 next)
    (found : approximate number = .ok result) :
    result = formalConvergents.2 ∨ ∃ before, Kept before result := by
  have ended := run_approximate number
  rw [found] at ended
  exact eq_or_exists_kept_of_run taken first ended

/-- What becomes of a number whose first convergent is taken. -/
theorem Takes.approximate_cases (takes : Takes number formalConvergents.1 formalConvergents.2 next)
    {fraction : Decimal} (subtracted : number.sub precision number.floor = .ok fraction) :
    fraction.isZero = true ∧ approximate number = .ok next ∨
      fraction.isZero = false ∧
        ((∃ condition, (Decimal.ofInt 1).div precision fraction = .error condition ∧
            approximate number = .error condition) ∨
          ∃ reciprocal, (Decimal.ofInt 1).div precision fraction = .ok reciprocal ∧
            run 46 reciprocal formalConvergents.2 next = some (approximate number)) := by
  have ended := run_approximate number
  have came := takes.pass_eq subtracted
  cases zero : fraction.isZero with
  | true =>
    rw [zero, if_pos rfl] at came
    rw [run_of_ends 46 came] at ended
    exact Or.inl ⟨rfl, (Option.some.inj ended).symm⟩
  | false =>
    rw [zero, if_neg Bool.false_ne_true] at came
    refine Or.inr ⟨rfl, ?_⟩
    cases divided : (Decimal.ofInt 1).div precision fraction with
    | error condition =>
      rw [divided] at came
      rw [run_of_ends 46 came] at ended
      exact Or.inl ⟨condition, rfl, (Option.some.inj ended).symm⟩
    | ok reciprocal =>
      rw [divided] at came
      rw [run_of_goesOn 46 came] at ended
      exact Or.inr ⟨reciprocal, rfl, ended⟩

end LedgerWire.Price
