import LedgerWire.Fault

/-!
Contract: what is known of checks in sequence that are all passed, and of steps in sequence that all
succeed.

Owns:
- the success of a sequence, of a result and of a refusal, as equivalences, for checks and for steps
  that change a state.

Does not own: which check refuses, and why.
-/

namespace LedgerWire.Outcome

variable {ε σ α β : Type}

/-! ### Checks -/

theorem bind_eq_ok_iff {first : Except ε α} {next : α → Except ε β} {result : β} :
    (first >>= next) = .ok result ↔ ∃ value, first = .ok value ∧ next value = .ok result := by
  cases first with
  | ok value => simp [bind, Except.bind]
  | error failure => simp [bind, Except.bind]

theorem map_eq_ok_iff {f : α → β} {made : Except ε α} {result : β} :
    f <$> made = .ok result ↔ ∃ value, made = .ok value ∧ f value = result := by
  cases made with
  | ok value => simp [Functor.map, Except.map]
  | error failure => simp [Functor.map, Except.map]

@[simp] theorem pure_eq_ok_iff {value result : α} :
    (pure value : Except Failure α) = .ok result ↔ value = result := by
  simp [pure, Except.pure]

@[simp] theorem throw_ne_ok {failure : Failure} {result : α} :
    ¬ (throw failure : Except Failure α) = .ok result := by
  intro passed
  cases passed

/-- What stands behind a check succeeds together with it. -/
theorem check_eq_ok_iff {refused : Prop} [Decidable refused] {failure : Failure}
    {next : Except Failure α}
    {result : α} :
    (if refused then (do let _ : PUnit ← throw failure; next) else next) = .ok result ↔
      ¬ refused ∧ next = .ok result := by
  by_cases holds : refused
  · simp [holds, bind, Except.bind, throw, throwThe, MonadExceptOf.throw]
  · simp [holds]

/-! ### Steps that change a state -/

@[simp] theorem run_pure_eq_ok {value result : α} {before after : σ} :
    (pure value : EStateM Failure σ α).run before = .ok result after ↔
      result = value ∧ after = before := by
  change EStateM.Result.ok value before = .ok result after ↔ _
  simp [eq_comm]

@[simp] theorem run_throw_ne_ok {failure : Failure} {value : α} {before after : σ} :
    ¬ (throw failure : EStateM Failure σ α).run before = .ok value after := by
  intro run
  cases run

/-- Two steps in sequence succeed if both do, the second from where the first stopped. -/
theorem run_bind_eq_ok
    {step : EStateM Failure σ α}
    {next : α → EStateM Failure σ β}
    {result : β}
    {before after : σ} :
    (step >>= next).run before = .ok result after ↔
      ∃ value between, step.run before = .ok value between ∧
        (next value).run between = .ok result after := by
  change EStateM.bind step next before = _ ↔ ∃ value between, step before = _ ∧
    next value between = _
  rw [EStateM.bind]
  cases step before with
  | ok value between =>
    constructor
    · intro run
      exact ⟨value, between, rfl, run⟩
    · intro steps
      rcases steps with ⟨_, _, found, run⟩
      cases found
      exact run
  | error failure between => simp

theorem run_bind_of_ok
    {step : EStateM Failure σ α}
    {next : α → EStateM Failure σ β}
    {value : α}
    {before between : σ}
    (run : step.run before = .ok value between) :
    (step >>= next).run before = (next value).run between := by
  change EStateM.bind step next before = _
  rw [EStateM.bind, show step before = .ok value between from run]
  rfl

theorem run_bind_of_error
    {step : EStateM Failure σ α}
    {next : α → EStateM Failure σ β}
    {failure : Failure}
    {before between : σ}
    (run : step.run before = .error failure between) :
    (step >>= next).run before = .error failure between := by
  change EStateM.bind step next before = _
  rw [EStateM.bind, show step before = .error failure between from run]

@[simp] theorem run_get_eq_ok {value before after : σ} :
    (get : EStateM Failure σ σ).run before = .ok value after ↔ value = before ∧ after = before := by
  change EStateM.Result.ok before before = .ok value after ↔ _
  simp [eq_comm]

@[simp] theorem run_set_eq_ok {state before after : σ} {done : PUnit} :
    (set state : EStateM Failure σ PUnit).run before = .ok done after ↔ after = state := by
  change EStateM.Result.ok PUnit.unit state = .ok done after ↔ _
  simp [eq_comm]

end LedgerWire.Outcome
