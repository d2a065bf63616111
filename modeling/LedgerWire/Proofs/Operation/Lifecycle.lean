import LedgerWire.Proofs.Operation.Filling

/-!
Contract: the life of an operation builder. Calls fill it in until the first attempt to build, which
uses it up; the operation has what was collected until then. A call that is refused leaves the
builder as it was, but for one: naming a signer by a key that cannot be read drops a ledger entry
that was named before.

Owns:
- the replies to every sequence of calls on a new builder, and the fields of what is built;
- `OperationKind.Offers`, the entries that builders of a kind offer, and what refused ones leave
  behind.

Does not own: whether the operation can be written.
-/

namespace LedgerWire

/-- The entries that builders of a kind offer. -/
def OperationKind.Offers (kind : OperationKind) : Entry → Prop
  | .fill field _ => field = .source ∨ field ∈ kind.fields ∧ field ≠ .revokeTarget
  | .addAsset _ => .path ∈ kind.fields
  | .addClaimant _ => .claimants ∈ kind.fields
  | .revokeEntry _ | .revokeSigner _ _ => .revokeTarget ∈ kind.fields

/-- Whether an entry drops the ledger entry that a form names: it names a signer instead. -/
def Entry.Displaces (form : Form) : Entry → Prop
  | .revokeSigner _ _ => ∃ key, form .revokeTarget = some (.entry key)
  | _ => False

theorem OperationKind.eq_revokeSponsorship {kind : OperationKind}
    (targeted : .revokeTarget ∈ kind.fields) :
    kind = .revokeSponsorship := by
  cases kind with
  | revokeSponsorship => rfl
  | _ => simp [fields] at targeted

theorem OperationBody.exists_target {body : OperationBody}
    (revokes : body.kind = .revokeSponsorship) :
    ∃ target, body = .revokeSponsorship target := by
  cases body with
  | revokeSponsorship target => exact ⟨target, rfl⟩
  | _ => cases revokes

namespace Builder

/-! ### What is built -/

theorem after_entries (kind : OperationKind) (entries : List Entry) :
    construction.after (new kind) (entries.map .enter) = ⟨kind, Form.filled entries, false⟩ :=
  (replies_entries rfl entries).2

/-- What is built has the fields of its kind as they were collected, and no others. -/
theorem form_of_built {kind : OperationKind} {entries : List Entry} {operation : Operation}
    (built : (construction.call ⟨kind, Form.filled entries, false⟩ .build).1 = .built operation) :
    operation.kind = kind ∧
      ∀ field, operation.form field =
        if field = .source ∨ field ∈ kind.fields then Form.collected entries field else none := by
  rw [call_build_of_unused rfl] at built
  cases made : (Form.filled entries).toBody kind with
  | error failure =>
    simp only [made] at built
    cases built
  | ok body =>
    simp only [made] at built
    cases built
    obtain ⟨sameKind, fields⟩ := Form.form_of_toBody made
    refine ⟨sameKind, ?_⟩
    intro field
    by_cases isSource : field = .source
    · subst isSource
      rw [if_pos (Or.inl rfl), Operation.form, Form.set_same]
      exact Form.filled_eq_lastSet entries (by decide) (by decide)
    · rw [Operation.form, Form.set_other _ _ isSource]
      by_cases member : field ∈ kind.fields
      · rw [if_pos (Or.inr member), fields field member]
        rcases Form.settled_filled entries field with same | ⟨rfl, dropped⟩
        · exact same
        · have revokes := sameKind.trans (OperationKind.eq_revokeSponsorship member)
          obtain ⟨target, rfl⟩ := OperationBody.exists_target revokes
          rw [← fields _ member] at dropped
          cases dropped
      · rw [if_neg (by simp [isSource, member])]
        exact body.form_eq_none (sameKind ▸ member)

/-- Of the two targets of a revocation the operation has the one that was named last, and not the
other. -/
theorem target_of_built {kind : OperationKind} {entries : List Entry} {operation : Operation}
    (built : (construction.call ⟨kind, Form.filled entries, false⟩ .build).1 = .built operation)
    {target : RevokeTarget} (revokes : operation.body = .revokeSponsorship target) :
    lastSet .revokeTarget entries = some target ∧
      (target.ledgerKey?.isSome ↔ target.signer? = none) := by
  obtain ⟨sameKind, fields⟩ := form_of_built built
  obtain ⟨source, body⟩ := operation
  subst revokes
  have isRevocation : kind = .revokeSponsorship := sameKind.symm
  have targeted : Field.revokeTarget ∈ kind.fields := by
    rw [isRevocation]
    exact List.mem_singleton_self _
  have collected := fields .revokeTarget
  rw [if_pos (Or.inr targeted), Operation.form, Form.set_other _ _ (by decide)] at collected
  refine ⟨collected.symm, ?_⟩
  cases target with
  | entry key => exact iff_of_true rfl rfl
  | signer account key => exact iff_of_false Bool.false_ne_true nofun

/-- Every sequence of calls on a new builder of any kind: an operation is built at most once; until
then each entry is answered by itself; the first attempt to build uses the builder up, and
everything behind it is refused. An operation that is built has those fields that were collected. -/
theorem replies_collected (kind : OperationKind) (calls : List (Call Entry)) :
    (construction.replies (new kind) calls).countP Reply.isBuilt ≤ 1 ∧
      (∀ entries : List Entry, calls = entries.map .enter →
        construction.replies (new kind) calls = entries.map Entry.reply) ∧
      ∀ (entries : List Entry) (later : List (Call Entry)),
        calls = entries.map .enter ++ .build :: later →
          ∃ reply, reply ≠ .entered ∧
            construction.replies (new kind) calls =
              entries.map Entry.reply ++ reply :: later.map construction.spent ∧
            ∀ operation, reply = .built operation →
              operation.kind = kind ∧
              (∀ field, operation.form field =
                if field = .source ∨ field ∈ kind.fields then Form.collected entries field
                else none) ∧
              ∀ target, operation.body = .revokeSponsorship target →
                lastSet .revokeTarget entries = some target ∧
                  (target.ledgerKey?.isSome ↔ target.signer? = none) := by
  refine ⟨singleUse_construction.countP_isBuilt_le_one calls, ?_, ?_⟩
  · intro entries split
    rw [split]
    exact (replies_entries rfl entries).1
  · intro entries later split
    have replies : construction.replies (new kind) (entries.map .enter ++ .build :: later) = _ :=
      singleUse_construction.replies_first_build entries later
    rw [(replies_entries rfl entries).1, after_entries] at replies
    refine ⟨_, ?_, split ▸ replies, ?_⟩
    · rw [call_build_of_unused rfl]
      cases (Form.filled entries).toBody kind with
      | ok body => exact nofun
      | error failure => exact nofun
    · intro operation built
      obtain ⟨sameKind, fields⟩ := form_of_built built
      exact ⟨sameKind, fields, fun target revokes => target_of_built built revokes⟩

/-! ### Calls that are refused -/

theorem dropEntry_eq_self_iff {form : Form} :
    form.dropEntry = form ↔ ¬ ∃ key, form .revokeTarget = some (.entry key) := by
  unfold Form.dropEntry
  constructor
  · intro same named
    obtain ⟨key, target⟩ := named
    simp only [target] at same
    have dropped := congrFun same .revokeTarget
    rw [Form.set_same, target] at dropped
    cases dropped
  · intro unnamed
    split
    · next key target => exact absurd ⟨key, target⟩ unnamed
    · rfl

/-- An entry that is refused changes at most the target of a revocation. -/
theorem enter_of_failure {form : Form} {entry : Entry} {failure : Failure}
    (refused : entry.failure? = some failure) :
    form.enter entry =
      match entry with
      | .revokeSigner _ _ => form.dropEntry
      | _ => form := by
  cases entry with
  | fill field given =>
    simp only [Entry.failure?] at refused
    simp only [Form.enter]
    cases read : field.read given with
    | ok value => simp [read] at refused
    | error cause => rfl
  | addAsset asset => cases refused
  | addClaimant claimant => cases refused
  | revokeEntry key => cases refused
  | revokeSigner account key =>
    simp only [Entry.failure?] at refused
    simp only [Form.enter]
    cases read : account.toPublicKey with
    | ok found => simp [read] at refused
    | error cause => rfl

theorem enter_of_displaces {form : Form} {entry : Entry} {failure : Failure}
    (refused : entry.failure? = some failure) (displaces : entry.Displaces form) :
    form.enter entry = form.dropEntry := by
  cases entry with
  | revokeSigner account key => exact enter_of_failure refused
  | _ => exact absurd displaces not_false

theorem enter_eq_self_iff {form : Form} {entry : Entry} {failure : Failure}
    (refused : entry.failure? = some failure) :
    form.enter entry = form ↔ ¬ entry.Displaces form := by
  rw [enter_of_failure refused]
  cases entry with
  | revokeSigner account key => exact dropEntry_eq_self_iff
  | _ => exact iff_of_true rfl not_false

/-- A builder that names a ledger entry builds its revocation, and one that names nothing is
refused. -/
theorem build_of_displaces {builder : Builder} {entry : Entry} (unused : builder.consumed = false)
    (offered : builder.kind.Offers entry) (displaces : entry.Displaces builder.form) :
    (∃ operation, (construction.call builder .build).1 = .built operation) ∧
      ∃ failure, (construction.call { builder with form := builder.form.dropEntry } .build).1 =
        .refused failure := by
  cases entry with
  | revokeSigner account signerKey =>
    obtain ⟨key, target⟩ := displaces
    have kind := OperationKind.eq_revokeSponsorship offered
    have made : builder.form.toBody builder.kind = .ok (.revokeSponsorship (.entry key)) := by
      simp [kind, Form.toBody, Form.require, target, Functor.map, Except.map]
    have unmade : builder.form.dropEntry.toBody builder.kind =
        .error (Failure.operation "missing revoke sponsorship operation ledger key or signer") := by
      simp [kind, Form.toBody, Form.require, Form.dropEntry, target, Functor.map, Except.map]
    have unbuilt :=
      @reply_build_of_error { builder with form := builder.form.dropEntry } unused _ unmade
    exact ⟨⟨_, reply_build_of_ok unused made⟩, ⟨_, unbuilt⟩⟩
  | _ => exact absurd displaces not_false

/-- A call that is refused leaves a builder as it was, and every sequence of calls is answered as if
it had not been made, unless it drops a ledger entry that was named; in that case there is a
difference. -/
theorem refused_changes_nothing_iff
    {builder after : Builder}
    {entry : Entry}
    {failure : Failure}
    (unused : builder.consumed = false)
    (offered : builder.kind.Offers entry)
    (refused : construction.call builder (.enter entry) = (.refused failure, after)) :
    (after = builder ↔ ¬ entry.Displaces builder.form) ∧
      ((∀ calls, construction.replies after calls = construction.replies builder calls) ↔
        ¬ entry.Displaces builder.form) := by
  rw [call_enter_of_unused unused, Prod.mk.injEq] at refused
  obtain ⟨reply, rfl⟩ := refused
  have unfit : entry.failure? = some failure := by
    unfold Entry.reply at reply
    cases found : entry.failure? with
    | none =>
      rw [found] at reply
      cases reply
    | some cause =>
      rw [found] at reply
      cases reply
      rfl
  have kept : builder.form.enter entry = builder.form ↔ ¬ entry.Displaces builder.form :=
    enter_eq_self_iff unfit
  constructor
  · rw [← kept]
    constructor
    · intro same
      exact congrArg Builder.form same
    · intro same
      rw [same]
  · constructor
    · intro alike displaces
      obtain ⟨⟨operation, built⟩, ⟨cause, unbuilt⟩⟩ := build_of_displaces unused offered displaces
      have drops : builder.form.enter entry = builder.form.dropEntry :=
        enter_of_displaces unfit displaces
      have same := alike [.build]
      simp only [Construction.replies, drops, built, unbuilt, List.cons.injEq, reduceCtorEq,
        false_and] at same
    · intro stays calls
      rw [kept.mpr stays]

/-- A builder that names an account as a ledger entry, and is then given a text that is no key for a
signer, is another builder; one that is given such a text as a destination is not. -/
theorem refused_changes_nothing_iff_unreadable :
    let key : LedgerKey := .account ⟨⟨List.replicate 32 7, rfl⟩⟩
    let named : Builder :=
      ⟨.revokeSponsorship, Form.blank.set .revokeTarget (some (.entry key)), false⟩
    (∃ failure after,
      construction.call named (.enter (.revokeSigner (.text "bad") none)) =
      (.refused failure, after) ∧
        after ≠ named) ∧
      ∃ failure,
        construction.call (new .payment) (.enter (.fill .destination (.text "bad"))) =
          (.refused failure, new .payment) := by
  intro key named
  constructor
  · obtain ⟨failure, after, refused⟩ : ∃ failure after,
        construction.call named (.enter (.revokeSigner (.text "bad") none)) =
        (.refused failure, after) :=
      ⟨_, _, rfl⟩
    refine ⟨failure, after, refused, ?_⟩
    have differs := (refused_changes_nothing_iff rfl (List.mem_singleton_self _) refused).1
    exact fun same => differs.mp same ⟨key, Form.set_same Form.blank .revokeTarget _⟩
  · obtain ⟨failure, after, refused⟩ : ∃ failure after,
        construction.call (new .payment) (.enter (.fill .destination (.text "bad"))) =
          (.refused failure, after) :=
      ⟨_, _, rfl⟩
    have offered : OperationKind.payment.Offers (.fill .destination (.text "bad")) :=
      Or.inr ⟨by decide, by decide⟩
    obtain rfl := (refused_changes_nothing_iff rfl offered refused).1.mpr not_false
    exact ⟨failure, refused⟩

end Builder

end LedgerWire
