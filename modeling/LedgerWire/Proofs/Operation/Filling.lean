import LedgerWire.Proofs.Operation.Calls
import LedgerWire.Proofs.Operation.Checks
import Mathlib.Data.List.DropRight

/-!
Contract: what a sequence of entries fills in. A field holds what it was last set to; a list goes on
from there with what was added since; and of the targets of a revocation the one that was named last
remains, if any.

Owns:
- `Entry.sets?`, `lastSet` and `sinceSet`: what entries set a field to, and those behind the last
  that does;
- `Form.collected`, the fields by the entries alone, and its agreement with the form of the builder.

Does not own: when a builder is used up.
-/

namespace LedgerWire

/-! ### Entries -/

namespace Entry

/-- The field that an entry sets, and what to: its argument as it was converted. Nothing is set by
an entry that is refused for its argument, or that adds to a list. -/
def setting? : Entry → Option (Σ field : Field, Option field.Value)
  | .fill field given =>
    match field.read given with
    | .ok value => some ⟨field, value⟩
    | .error _ => none
  | .revokeEntry key => some ⟨.revokeTarget, key.map .entry⟩
  | .revokeSigner account key =>
    match account.toPublicKey with
    | .ok account => some ⟨.revokeTarget, key.map (.signer account)⟩
    | .error _ => none
  | .addAsset _ | .addClaimant _ => none

/-- What an entry sets a field to, if it sets it. -/
def sets? (field : Field) (entry : Entry) : Option (Option field.Value) :=
  entry.setting?.bind fun setting =>
    if same : setting.1 = field then some (same ▸ setting.2) else none

/-- The asset that an entry adds to the path. -/
def asset? : Entry → Option Asset
  | .addAsset asset => some asset
  | _ => none

/-- The claimant that an entry adds. -/
def claimant? : Entry → Option Claimant
  | .addClaimant claimant => some claimant
  | _ => none

theorem sets?_eq_some_iff {field : Field} {value : Option field.Value} {entry : Entry} :
    entry.sets? field = some value ↔ entry.setting? = some ⟨field, value⟩ := by
  unfold sets?
  cases entry.setting? with
  | none => simp
  | some setting =>
    obtain ⟨other, found⟩ := setting
    by_cases same : other = field
    · subst same
      simp
    · simp [same]

theorem eq_of_asset? {asset : Asset} {entry : Entry} (added : entry.asset? = some asset) :
    entry = .addAsset asset := by
  cases entry with
  | addAsset other =>
    cases added
    rfl
  | _ => cases added

theorem eq_of_claimant? {claimant : Claimant} {entry : Entry}
    (added : entry.claimant? = some claimant) :
    entry = .addClaimant claimant := by
  cases entry with
  | addClaimant other =>
    cases added
    rfl
  | _ => cases added

end Entry

/-- What a field was last set to; nothing if it never was. -/
def lastSet (field : Field) (entries : List Entry) : Option field.Value :=
  (latest (Entry.sets? field) entries).join

/-- The entries behind the last one that sets a field. -/
def sinceSet (field : Field) (entries : List Entry) : List Entry :=
  entries.rtakeWhile fun entry => (entry.sets? field).isNone

theorem lastSet_concat_of_sets {field : Field} {value : Option field.Value} {entry : Entry}
    (sets : entry.sets? field = some value) (entries : List Entry) :
    lastSet field (entries ++ [entry]) = value := by
  rw [lastSet, latest_concat, sets]
  rfl

theorem lastSet_concat_of_none {field : Field} {entry : Entry} (unset : entry.sets? field = none)
    (entries : List Entry) : lastSet field (entries ++ [entry]) = lastSet field entries := by
  rw [lastSet, latest_concat, unset]
  rfl

namespace Form

variable {form : Form} {entry : Entry} {field : Field}

/-! ### One entry -/

theorem dropEntry_cases (form : Form) :
    form.dropEntry = form ∨ form.dropEntry = form.set .revokeTarget none := by
  unfold dropEntry
  split
  · exact Or.inr rfl
  · exact Or.inl rfl

/-- All that an entry can do: set a field, add to one of the two lists, or be refused, which at most
drops a ledger entry that was named. -/
theorem enter_cases (form : Form) (entry : Entry) :
    (∃ field value, entry.setting? = some ⟨field, value⟩ ∧
      form.enter entry = form.set field value) ∨
      entry.setting? = none ∧
        ((∃ asset, entry = .addAsset asset ∧
            form.enter entry = form.set .path (some (form.path ++ [asset]))) ∨
          (∃ claimant, entry = .addClaimant claimant ∧
            form.enter entry = form.set .claimants (some (form.claimants ++ [claimant]))) ∨
          entry.asset? = none ∧ entry.claimant? = none ∧
            (form.enter entry = form ∨ form.enter entry = form.set .revokeTarget none)) := by
  cases entry with
  | fill field given =>
    simp only [enter, Entry.setting?]
    cases field.read given with
    | ok value => exact Or.inl ⟨field, value, rfl, rfl⟩
    | error failure => exact Or.inr ⟨rfl, Or.inr (Or.inr ⟨rfl, rfl, Or.inl rfl⟩)⟩
  | addAsset asset => exact Or.inr ⟨rfl, Or.inl ⟨asset, rfl, rfl⟩⟩
  | addClaimant claimant => exact Or.inr ⟨rfl, Or.inr (Or.inl ⟨claimant, rfl, rfl⟩)⟩
  | revokeEntry key => exact Or.inl ⟨.revokeTarget, _, rfl, rfl⟩
  | revokeSigner account key =>
    simp only [enter, Entry.setting?]
    cases account.toPublicKey with
    | ok account => exact Or.inl ⟨.revokeTarget, _, rfl, rfl⟩
    | error failure => exact Or.inr ⟨rfl, Or.inr (Or.inr ⟨rfl, rfl, dropEntry_cases form⟩)⟩

theorem enter_of_sets {value : Option field.Value} (sets : entry.sets? field = some value) :
    form.enter entry field = value := by
  have setting := Entry.sets?_eq_some_iff.mp sets
  rcases form.enter_cases entry with ⟨other, found, set, entered⟩ | ⟨unset, -⟩
  · rw [setting] at set
    cases set
    rw [entered, set_same]
  · rw [setting] at unset
    cases unset

/-- A field that is not set stays as it is, but for a list that is added to and a target that is
dropped. -/
theorem enter_of_none (form : Form) (unset : entry.sets? field = none)
    (noAsset : field = .path → entry.asset? = none)
    (noClaimant : field = .claimants → entry.claimant? = none) :
    form.enter entry field = form field ∨ field = .revokeTarget ∧
      form.enter entry field = none := by
  rcases form.enter_cases entry with ⟨other, found, set, entered⟩ |
    ⟨-, ⟨asset, rfl, entered⟩ | ⟨claimant, rfl, entered⟩ | ⟨-, -, entered | entered⟩⟩
  · refine Or.inl ?_
    rw [entered]
    refine set_other form found ?_
    intro same
    subst same
    rw [Entry.sets?_eq_some_iff.mpr set] at unset
    cases unset
  · refine Or.inl ?_
    rw [entered]
    refine set_other form _ ?_
    intro same
    cases noAsset same
  · refine Or.inl ?_
    rw [entered]
    refine set_other form _ ?_
    intro same
    cases noClaimant same
  · exact Or.inl (by rw [entered])
  · by_cases same : field = .revokeTarget
    · subst same
      exact Or.inr ⟨rfl, by rw [entered, set_same]⟩
    · exact Or.inl (by rw [entered, set_other _ _ same])

theorem path_enter (unset : entry.sets? .path = none) :
    (form.enter entry).path = form.path ++ entry.asset?.toList := by
  cases added : entry.asset? with
  | none =>
    rcases form.enter_of_none unset (fun _ => added) nofun with same | ⟨other, -⟩
    · simp [path, same]
    · cases other
  | some asset =>
    cases Entry.eq_of_asset? added
    simp [path, enter]

theorem claimants_enter (unset : entry.sets? .claimants = none) :
    (form.enter entry).claimants = form.claimants ++ entry.claimant?.toList := by
  cases added : entry.claimant? with
  | none =>
    rcases form.enter_of_none unset nofun (fun _ => added) with same | ⟨other, -⟩
    · simp [claimants, same]
    · cases other
  | some claimant =>
    cases Entry.eq_of_claimant? added
    simp [claimants, enter]

/-! ### A sequence of entries -/

/-- The fields by the entries alone: what each was last set to, with what was added to a list
since. -/
def collected (entries : List Entry) : Form
  | .path =>
    some ((lastSet .path entries).getD [] ++ (sinceSet .path entries).filterMap Entry.asset?)
  | .claimants =>
    some ((lastSet .claimants entries).getD [] ++
      (sinceSet .claimants entries).filterMap Entry.claimant?)
  | .clearLineFlags => some ((lastSet .clearLineFlags entries).getD TrustLineFlags.empty)
  | .setLineFlags => some ((lastSet .setLineFlags entries).getD TrustLineFlags.empty)
  | field => lastSet field entries

/-- The form of a new builder behind entries. -/
def filled (entries : List Entry) : Form := entries.foldl enter blank

theorem filled_concat (entries : List Entry) (entry : Entry) :
    filled (entries ++ [entry]) = (filled entries).enter entry := by
  simp only [filled, List.foldl_append, List.foldl_cons, List.foldl_nil]

theorem filled_eq_lastSet (entries : List Entry) (unlisted : field ≠ .path ∧ field ≠ .claimants)
    (untargeted : field ≠ .revokeTarget) : filled entries field = lastSet field entries := by
  induction entries using List.reverseRecOn with
  | nil => rfl
  | append_singleton entries entry inductionHypothesis =>
    rw [filled_concat]
    cases sets : entry.sets? field with
    | none =>
      rcases (filled entries).enter_of_none sets (fun same => absurd same unlisted.1)
        (fun same => absurd same unlisted.2) with same | ⟨other, -⟩
      · rw [same, lastSet_concat_of_none sets, inductionHypothesis]
      · exact absurd other untargeted
    | some value => rw [enter_of_sets sets, lastSet_concat_of_sets sets]

/-- A target that is no longer there was dropped. -/
theorem filled_revokeTarget (entries : List Entry) :
    filled entries .revokeTarget = lastSet .revokeTarget entries ∨
      filled entries .revokeTarget = none := by
  induction entries using List.reverseRecOn with
  | nil => exact Or.inl rfl
  | append_singleton entries entry inductionHypothesis =>
    rw [filled_concat]
    cases sets : entry.sets? .revokeTarget with
    | none =>
      rcases (filled entries).enter_of_none sets nofun nofun with same | ⟨-, dropped⟩
      · rwa [same, lastSet_concat_of_none sets]
      · exact Or.inr dropped
    | some value => exact Or.inl (by rw [enter_of_sets sets, lastSet_concat_of_sets sets])

/-- A list that is set now and then, and added to, is the last one set with what was added since. -/
theorem list_filled
    {α : Type}
    {list : Form → List α}
    {sets : Entry → Option (Option (List α))}
    {adds : Entry → Option α}
    (empty : list blank = [])
    (list_set : ∀ form entry value, sets entry = some value →
      list (enter form entry) = value.getD [])
    (list_add : ∀ form entry, sets entry = none →
      list (enter form entry) = list form ++ (adds entry).toList)
    (entries : List Entry) :
    list (filled entries) = (latest sets entries).join.getD [] ++
      (entries.rtakeWhile fun entry => (sets entry).isNone).filterMap adds := by
  induction entries using List.reverseRecOn with
  | nil => exact empty
  | append_singleton entries entry inductionHypothesis =>
    rw [filled_concat, latest_concat]
    cases set : sets entry with
    | none =>
      rw [list_add _ _ set, inductionHypothesis, List.rtakeWhile_concat_pos _ _ _ (by simp [set]),
        filterMap_concat, List.append_assoc]
      rfl
    | some value =>
      rw [list_set _ _ _ set, List.rtakeWhile_concat_neg _ _ _ (by simp [set])]
      simp

theorem path_filled (entries : List Entry) :
    (filled entries).path =
      (lastSet .path entries).getD [] ++ (sinceSet .path entries).filterMap Entry.asset? :=
  list_filled rfl (fun _ _ _ set => by rw [path, enter_of_sets set])
    (fun _ _ unset => path_enter unset)
    entries

example (credit : Asset) :
    (filled [.addAsset credit, .fill .path (some [.native]), .addAsset credit]).path =
      [.native, credit] := rfl

theorem claimants_filled (entries : List Entry) :
    (filled entries).claimants =
      (lastSet .claimants entries).getD [] ++
        (sinceSet .claimants entries).filterMap Entry.claimant? :=
  list_filled rfl (fun _ _ _ set => by rw [claimants, enter_of_sets set])
    (fun _ _ unset => claimants_enter unset) entries

/-- What is settled of a new builder behind entries is what they collect, but for a target of a
revocation that was dropped. -/
theorem settled_filled (entries : List Entry) (field : Field) :
    (filled entries).settled field = collected entries field ∨
      field = .revokeTarget ∧ (filled entries).settled field = none := by
  by_cases targeted : field = .revokeTarget
  · subst targeted
    rcases filled_revokeTarget entries with same | dropped
    · exact Or.inl same
    · exact Or.inr ⟨rfl, dropped⟩
  refine Or.inl ?_
  cases field with
  | path => exact congrArg some (path_filled entries)
  | claimants => exact congrArg some (claimants_filled entries)
  | revokeTarget => exact absurd rfl targeted
  | clearLineFlags | setLineFlags =>
    simp [settled, collected, filled_eq_lastSet]
  | _ => exact filled_eq_lastSet entries (by decide) (by decide)

end Form

end LedgerWire
