import LedgerWire.Operation.Builder
import LedgerWire.Proofs.Building.Calls

/-!
Contract: what one call on an operation builder does. An entry is refused for its argument or taken,
and in either case there is a form that it leaves; an attempt to build uses the builder up.

Owns:
- `Builder.construction`, `Entry.failure?`, and `Form.enter`, the form that an entry leaves;
- each call as one equation, for a builder that was not used and for one that was.

Does not own: what sequences of calls fill in.
-/

namespace LedgerWire

/-- Why the argument of an entry cannot be taken, if it cannot. -/
def Entry.failure? : Entry → Option Failure
  | .fill field given =>
    match field.read given with
    | .ok _ => none
    | .error failure => some failure
  | .revokeSigner account _ =>
    match account.toPublicKey with
    | .ok _ => none
    | .error failure => some failure
  | .addAsset _ | .addClaimant _ | .revokeEntry _ => none

/-- The reply of a builder that was not used to an entry. -/
def Entry.reply (entry : Entry) : Reply Operation :=
  match entry.failure? with
  | none => .entered
  | some failure => .refused failure

namespace Form

/-- The form without a ledger entry as the target of a revocation. -/
def dropEntry (form : Form) : Form :=
  match form .revokeTarget with
  | some (.entry _) => form.set .revokeTarget none
  | _ => form

/-- The form that an entry leaves, whether or not its argument is taken. -/
def enter (form : Form) : Entry → Form
  | .fill field given =>
    match field.read given with
    | .ok value => form.set field value
    | .error _ => form
  | .addAsset asset => form.set .path (some (form.path ++ [asset]))
  | .addClaimant claimant => form.set .claimants (some (form.claimants ++ [claimant]))
  | .revokeEntry key => form.set .revokeTarget (key.map .entry)
  | .revokeSigner account key =>
    match account.toPublicKey with
    | .ok account => form.set .revokeTarget (key.map (.signer account))
    | .error _ => form.dropEntry

theorem set_set (form : Form) (field : Field) (first second : Option field.Value) :
    (form.set field first).set field second = form.set field second := by
  funext other
  by_cases same : other = field
  · subst same
    rw [set_same, set_same]
  · rw [set_other _ _ same, set_other _ _ same, set_other _ _ same]

theorem set_dropEntry (form : Form) (value : Option RevokeTarget) :
    form.dropEntry.set .revokeTarget value = form.set .revokeTarget value := by
  unfold dropEntry
  split
  · exact set_set form .revokeTarget none value
  · rfl

end Form

namespace Builder

/-- How operations are built. -/
def construction : Construction Builder Entry Operation where
  enter := enter
  build := build
  consumed := Builder.consumed
  refusal := fun entry => entry.failure?.getD (Failure.plain .builderConsumed)

theorem run_dropEntry (builder : Builder) :
    dropEntry.run builder = .ok () { builder with form := builder.form.dropEntry } := by
  obtain ⟨kind, form, consumed⟩ := builder
  change EStateM.Result.ok () _ = _
  cases target : form .revokeTarget with
  | none => simp [Form.dropEntry, target]
  | some named =>
    cases named with
    | entry key => simp [Form.dropEntry, target]
    | signer account key => simp [Form.dropEntry, target]

theorem run_enter_of_unused {builder : Builder} (unused : builder.consumed = false)
    (entry : Entry) :
    (enter entry).run builder =
      match entry.failure? with
      | none => .ok () { builder with form := builder.form.enter entry }
      | some failure => .error failure { builder with form := builder.form.enter entry } := by
  obtain ⟨kind, form, consumed⟩ := builder
  subst unused
  cases entry with
  | fill field given =>
    simp only [enter, Entry.failure?, Form.enter]
    cases field.read given with
    | ok value => rfl
    | error failure => rfl
  | addAsset asset => rfl
  | addClaimant claimant => rfl
  | revokeEntry key => rfl
  | revokeSigner account key =>
    rw [enter, Outcome.run_bind_of_ok (run_dropEntry _)]
    simp only [Entry.failure?, Form.enter]
    cases account.toPublicKey with
    | ok account =>
      have same := Form.set_dropEntry form (key.map (.signer account))
      simp only [← same]
      rfl
    | error failure => rfl

theorem run_enter_of_consumed {builder : Builder} (used : builder.consumed = true) (entry : Entry) :
    ∃ after, (enter entry).run builder = .error (construction.refusal entry) after ∧
      after.consumed = true := by
  obtain ⟨kind, form, consumed⟩ := builder
  subst used
  cases entry with
  | fill field given =>
    simp only [enter, construction, Entry.failure?]
    cases field.read given with
    | ok value => exact ⟨_, rfl, rfl⟩
    | error failure => exact ⟨_, rfl, rfl⟩
  | addAsset asset => exact ⟨_, rfl, rfl⟩
  | addClaimant claimant => exact ⟨_, rfl, rfl⟩
  | revokeEntry key => exact ⟨_, rfl, rfl⟩
  | revokeSigner account key =>
    rw [enter, Outcome.run_bind_of_ok (run_dropEntry _)]
    simp only [construction, Entry.failure?]
    cases account.toPublicKey with
    | ok account => exact ⟨_, rfl, rfl⟩
    | error failure => exact ⟨_, rfl, rfl⟩

theorem run_build_of_unused {builder : Builder} (unused : builder.consumed = false) :
    build.run builder =
      match builder.form.toBody builder.kind with
      | .ok body => .ok ⟨builder.form .source, body⟩ { builder with consumed := true }
      | .error failure => .error failure { builder with consumed := true } := by
  obtain ⟨kind, form, consumed⟩ := builder
  subst unused
  change (receive (form.toBody kind) >>= fun body =>
    pure ⟨form .source, body⟩ : Making Operation).run
    ⟨kind, form, true⟩ = _
  cases form.toBody kind with
  | ok body => rfl
  | error failure => rfl

theorem run_build_of_consumed {builder : Builder} (used : builder.consumed = true) :
    build.run builder = .error (Failure.plain .builderConsumed) builder := by
  obtain ⟨kind, form, consumed⟩ := builder
  subst used
  rfl

/-! ### Calls -/

theorem call_enter_of_unused {builder : Builder} (unused : builder.consumed = false)
    (entry : Entry) :
    construction.call builder (.enter entry) =
      (entry.reply, { builder with form := builder.form.enter entry }) := by
  have run := run_enter_of_unused unused entry
  unfold Entry.reply
  cases refused : entry.failure? with
  | none =>
    rw [refused] at run
    exact Construction.call_enter_of_ok run
  | some failure =>
    rw [refused] at run
    exact Construction.call_enter_of_error run

theorem call_build_of_unused {builder : Builder} (unused : builder.consumed = false) :
    construction.call builder .build =
      (match builder.form.toBody builder.kind with
        | .ok body => .built ⟨builder.form .source, body⟩
        | .error failure => .refused failure,
      { builder with consumed := true }) := by
  have run := run_build_of_unused unused
  cases made : builder.form.toBody builder.kind with
  | ok body =>
    rw [made] at run
    exact Construction.call_build_of_ok run
  | error failure =>
    rw [made] at run
    exact Construction.call_build_of_error run

theorem reply_build_of_ok {builder : Builder} (unused : builder.consumed = false)
    {body : OperationBody}
    (made : builder.form.toBody builder.kind = .ok body) :
    (construction.call builder .build).1 = .built ⟨builder.form .source, body⟩ := by
  rw [call_build_of_unused unused, made]

theorem reply_build_of_error {builder : Builder} (unused : builder.consumed = false)
    {failure : Failure}
    (unmade : builder.form.toBody builder.kind = .error failure) :
    (construction.call builder .build).1 = .refused failure := by
  rw [call_build_of_unused unused, unmade]

/-- A builder of operations is used up by the first attempt to build. Behind it an entry is still
refused for its argument first. -/
theorem singleUse_construction : construction.SingleUse where
  enter_keeps builder entry := by
    cases used : builder.consumed with
    | true =>
      obtain ⟨after, run, still⟩ := run_enter_of_consumed used entry
      rw [Construction.call_enter_of_error run]
      exact still.trans used.symm
    | false =>
      rw [call_enter_of_unused used]
      rfl
  build_consumes builder := by
    cases used : builder.consumed with
    | true =>
      rw [Construction.call_build_of_error (run_build_of_consumed used)]
      exact used
    | false =>
      rw [call_build_of_unused used]
      rfl
  reply_of_consumed builder call used := by
    cases call with
    | enter entry =>
      obtain ⟨after, run, -⟩ := run_enter_of_consumed used entry
      rw [Construction.call_enter_of_error run]
      rfl
    | build =>
      rw [Construction.call_build_of_error (run_build_of_consumed used)]
      rfl

/-- As long as nothing was built, each entry is answered by itself, and what it leaves is a matter
of the form alone. -/
theorem replies_entries {builder : Builder} (unused : builder.consumed = false)
    (entries : List Entry) :
    construction.replies builder (entries.map .enter) = entries.map Entry.reply ∧
      construction.after builder (entries.map .enter) =
        { builder with form := entries.foldl Form.enter builder.form } := by
  induction entries generalizing builder with
  | nil => exact ⟨rfl, rfl⟩
  | cons entry entries inductionHypothesis =>
    have entered := call_enter_of_unused unused entry
    obtain ⟨repliesRest, afterRest⟩ :=
      @inductionHypothesis { builder with form := builder.form.enter entry } unused
    rw [List.map_cons, List.map_cons, Construction.replies, Construction.after_cons, entered,
      repliesRest, afterRest]
    exact ⟨rfl, rfl⟩

end Builder

end LedgerWire
