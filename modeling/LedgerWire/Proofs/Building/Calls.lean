import LedgerWire.Proofs.Outcome

/-!
Contract: calls on a builder, one after the other. A call that fails is answered by its failure, and
the next one goes on from what it left; the calls up to the first attempt to build and those behind
it are told apart.

Owns:
- `Call`, `Reply` and `Construction`, with the replies to a sequence of calls and the state behind
  it;
- `latest`, what the last entry says about something;
- `SingleUse`, what it takes for a builder to be used up by the first attempt to build, and what
  then is known of every sequence of calls.

Does not own: what is built.
-/

namespace LedgerWire

/-- A call on a builder: to enter something, or to build. -/
inductive Call (Entry : Type) where
  | enter (entry : Entry)
  | build

/-- The reply to a call. -/
inductive Reply (Built : Type) where
  | entered
  | built (result : Built)
  | refused (failure : Failure)
  deriving DecidableEq

def Reply.isBuilt {Built : Type} : Reply Built → Bool
  | .built _ => true
  | _ => false

/-- How things are built of entries, step by step. -/
structure Construction (State Entry Built : Type) where
  enter : Entry → EStateM Failure State Unit
  build : EStateM Failure State Built
  /-- Whether a state is that of a builder that was used up. -/
  consumed : State → Bool
  /-- Why a builder that was used up refuses an entry. -/
  refusal : Entry → Failure

variable {State Entry Built : Type}

/-- Calls either only enter something, or there is a first one to build among them. -/
theorem Call.split (calls : List (Call Entry)) :
    (∃ entries : List Entry, calls = entries.map .enter) ∨
      ∃ (entries : List Entry) (later : List (Call Entry)),
        calls = entries.map .enter ++ .build :: later := by
  induction calls with
  | nil => exact Or.inl ⟨[], rfl⟩
  | cons call calls inductionHypothesis =>
    cases call with
    | build => exact Or.inr ⟨[], calls, rfl⟩
    | enter entry =>
      rcases inductionHypothesis with ⟨entries, rfl⟩ | ⟨entries, later, rfl⟩
      · exact Or.inl ⟨entry :: entries, rfl⟩
      · exact Or.inr ⟨entry :: entries, later, rfl⟩

theorem filterMap_concat {α : Type} (tells : Entry → Option α) (entries : List Entry)
    (entry : Entry) :
    (entries ++ [entry]).filterMap tells = entries.filterMap tells ++ (tells entry).toList := by
  rw [List.filterMap_append]
  cases told : tells entry with
  | none => simp [told]
  | some value => simp [told]

/-- What the last of those entries says that say something. -/
def latest {α : Type} (tells : Entry → Option α) (entries : List Entry) : Option α :=
  (entries.filterMap tells).getLast?

@[simp] theorem latest_nil {α : Type} (tells : Entry → Option α) : latest tells [] = none := rfl

theorem latest_concat {α : Type} (tells : Entry → Option α) (entries : List Entry) (entry : Entry) :
    latest tells (entries ++ [entry]) = (tells entry).or (latest tells entries) := by
  rw [latest, latest, filterMap_concat]
  cases tells entry with
  | none => simp
  | some value => simp

namespace Construction

variable (construction : Construction State Entry Built)

/-- The reply to a call and the state that it leaves. -/
def call (state : State) : Call Entry → Reply Built × State
  | .enter entry =>
    match (construction.enter entry).run state with
    | .ok _ after => (.entered, after)
    | .error failure after => (.refused failure, after)
  | .build =>
    match construction.build.run state with
    | .ok result after => (.built result, after)
    | .error failure after => (.refused failure, after)

/-- The replies to calls, one for each. -/
def replies (state : State) : List (Call Entry) → List (Reply Built)
  | [] => []
  | call :: calls =>
    (construction.call state call).1 :: replies (construction.call state call).2 calls

/-- The state behind calls. -/
def after (state : State) (calls : List (Call Entry)) : State :=
  calls.foldl (fun state call => (construction.call state call).2) state

variable {construction} {state next : State}

theorem call_enter_of_ok {entry : Entry} {entered : Unit}
    (run : (construction.enter entry).run state = .ok entered next) :
    construction.call state (.enter entry) = (.entered, next) := by
  rw [call, run]

theorem call_enter_of_error {entry : Entry} {failure : Failure}
    (run : (construction.enter entry).run state = .error failure next) :
    construction.call state (.enter entry) = (.refused failure, next) := by
  rw [call, run]

theorem call_build_of_ok {result : Built} (run : construction.build.run state = .ok result next) :
    construction.call state .build = (.built result, next) := by
  rw [call, run]

theorem call_build_of_error {failure : Failure}
    (run : construction.build.run state = .error failure next) :
    construction.call state .build = (.refused failure, next) := by
  rw [call, run]

theorem isBuilt_call_enter (entry : Entry) :
    (construction.call state (.enter entry)).1.isBuilt = false := by
  rw [call]
  cases (construction.enter entry).run state with
  | ok entered after => rfl
  | error failure after => rfl

@[simp] theorem after_nil : construction.after state [] = state := rfl

@[simp] theorem after_cons (call : Call Entry) (calls : List (Call Entry)) :
    construction.after state (call :: calls) =
      construction.after (construction.call state call).2 calls := rfl

theorem after_append (first second : List (Call Entry)) :
    construction.after state (first ++ second) =
      construction.after (construction.after state first) second := by
  simp only [after, List.foldl_append]

theorem replies_append (first second : List (Call Entry)) :
    construction.replies state (first ++ second) =
      construction.replies state first ++
        construction.replies (construction.after state first) second := by
  induction first generalizing state with
  | nil => rfl
  | cons call calls inductionHypothesis =>
    simp only [List.cons_append, replies, after_cons, inductionHypothesis]

/-- What is built, is built by an attempt from some state. -/
theorem exists_build_of_mem {result : Built} {calls : List (Call Entry)}
    (member : .built result ∈ construction.replies state calls) :
    ∃ before, (construction.call before .build).1 = .built result := by
  induction calls generalizing state with
  | nil => cases member
  | cons call calls inductionHypothesis =>
    rcases List.mem_cons.mp member with first | later
    · cases call with
      | build => exact ⟨state, first.symm⟩
      | enter entry =>
        have unbuilt : (construction.call state (.enter entry)).1.isBuilt = false :=
          isBuilt_call_enter entry
        rw [← first] at unbuilt
        cases unbuilt
    · exact inductionHypothesis later

/-- What a builder that was used up replies to a call. -/
def spent (construction : Construction State Entry Built) : Call Entry → Reply Built
  | .enter entry => .refused (construction.refusal entry)
  | .build => .refused (Failure.plain .builderConsumed)

theorem isBuilt_spent (call : Call Entry) : (construction.spent call).isBuilt = false := by
  cases call with
  | enter entry => rfl
  | build => rfl

theorem countP_isBuilt_entries (entries : List Entry) :
    (construction.replies state (entries.map .enter)).countP Reply.isBuilt = 0 := by
  induction entries generalizing state with
  | nil => rfl
  | cons entry entries inductionHypothesis =>
    rw [List.map_cons, replies, List.countP_cons_of_neg (by simp [isBuilt_call_enter]),
      inductionHypothesis]

/-- A builder is used up by the first attempt to build and by nothing else, and is good for nothing
then. -/
structure SingleUse (construction : Construction State Entry Built) : Prop where
  enter_keeps (state : State) (entry : Entry) :
    construction.consumed (construction.call state (.enter entry)).2 = construction.consumed state
  build_consumes (state : State) :
    construction.consumed (construction.call state .build).2 = true
  reply_of_consumed (state : State) (call : Call Entry) :
    construction.consumed state = true → (construction.call state call).1 = construction.spent call

namespace SingleUse

variable (single : SingleUse construction)
include single

theorem consumed_call (used : construction.consumed state = true) (call : Call Entry) :
    construction.consumed (construction.call state call).2 = true := by
  cases call with
  | enter entry => rw [single.enter_keeps, used]
  | build => exact single.build_consumes state

theorem replies_of_consumed (used : construction.consumed state = true)
    (calls : List (Call Entry)) :
    construction.replies state calls = calls.map construction.spent := by
  induction calls generalizing state with
  | nil => rfl
  | cons call calls inductionHypothesis =>
    rw [replies, List.map_cons, single.reply_of_consumed state call used,
      inductionHypothesis (single.consumed_call used call)]

/-- Behind the first attempt to build, whatever it gave, every call is refused. -/
theorem replies_first_build (entries : List Entry) (later : List (Call Entry)) :
    construction.replies state (entries.map .enter ++ .build :: later) =
      construction.replies state (entries.map .enter) ++
        (construction.call (construction.after state (entries.map .enter)) .build).1 ::
          later.map construction.spent := by
  rw [replies_append, replies, single.replies_of_consumed (single.build_consumes _)]

/-- However a builder is called, it builds something at most once. -/
theorem countP_isBuilt_le_one (calls : List (Call Entry)) :
    (construction.replies state calls).countP Reply.isBuilt ≤ 1 := by
  rcases Call.split calls with ⟨entries, rfl⟩ | ⟨entries, later, rfl⟩
  · rw [countP_isBuilt_entries]
    exact Nat.zero_le 1
  · have spentLater : (later.map construction.spent).countP Reply.isBuilt = 0 := by
      rw [List.countP_eq_zero]
      intro reply found
      obtain ⟨call, -, rfl⟩ := List.mem_map.mp found
      simp [isBuilt_spent call]
    rw [single.replies_first_build, List.countP_append, countP_isBuilt_entries, List.countP_cons,
      spentLater]
    split <;> decide

end SingleUse

end Construction

end LedgerWire
