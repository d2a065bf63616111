import LedgerWire.Proofs.Outcome
import LedgerWire.Wire.Reader

/-!
Contract: what is known of a run of a reader that succeeds, and of readers that take the same bytes
wherever these stand.

Owns:
- the success of each primitive reader, as an equivalence, and how whole inputs are read;
- `Reader.Yields`: a reader takes exactly some bytes to a value, whatever follows them.

Does not own: failures, and where they leave the cursor.
-/

namespace LedgerWire.Wire.Reader

open Outcome

variable {α β : Type}

/-! ### Runs that succeed -/

@[simp] theorem run_malformed_ne_ok {message : String} {value : α} {cursor after : Cursor} :
    ¬ (malformed message : Reader α).run cursor = .ok value after :=
  run_throw_ne_ok

@[simp] theorem run_ofExcept_eq_ok {result : Except Failure α} {value : α} {cursor after : Cursor} :
    (ofExcept result).run cursor = .ok value after ↔ result = .ok value ∧ after = cursor := by
  cases result with
  | ok found => simp [ofExcept, eq_comm]
  | error failure => simp [ofExcept]

theorem run_map_eq_ok {f : α → β} {reader : Reader α} {result : β} {cursor after : Cursor} :
    (f <$> reader).run cursor = .ok result after ↔
      ∃ value, reader.run cursor = .ok value after ∧ f value = result := by
  change EStateM.map f reader cursor = _ ↔ ∃ value, reader cursor = _ ∧ _
  rw [EStateM.map]
  cases reader cursor with
  | ok value between => simp [and_comm, and_left_comm]
  | error failure between => simp

theorem run_take_eq_ok {n : Int} {bytes : Bytes} {cursor after : Cursor} :
    (take n).run cursor = .ok bytes after ↔
      (bytes.length : Int) = n ∧ cursor.rest = bytes ++ after.rest ∧
        after.offset = cursor.offset + bytes.length := by
  change take n cursor = _ ↔ _
  simp only [take]
  split
  · rename_i enough
    simp only [EStateM.Result.ok.injEq, Cursor.advance]
    constructor
    · intro taken
      rcases taken with ⟨rfl, rfl⟩
      exact ⟨enough, (List.take_append_drop _ _).symm, by dsimp only; omega⟩
    · intro taken
      rcases taken with ⟨length, front, offset⟩
      rcases after with ⟨afterOffset, afterRest⟩
      dsimp only at front offset ⊢
      have counted : n.toNat = bytes.length := by omega
      rw [front, counted, List.take_left', List.drop_left', offset]
      all_goals simp
  · rename_i short
    simp only [reduceCtorEq, false_iff, not_and]
    intro length front
    have counted : n.toNat = bytes.length := by omega
    rw [front, counted, List.take_left' rfl] at short
    exact absurd length short

theorem run_finish_eq_ok {done : Unit} {cursor after : Cursor} :
    finish.run cursor = .ok done after ↔ after = cursor ∧ cursor.rest = [] := by
  change (if cursor.atEnd then pure ()
    else malformed s!"{cursor.remaining} trailing bytes after xdr value" : Reader Unit).run
      cursor = _ ↔ _
  rw [Cursor.atEnd]
  cases ended : cursor.rest.isEmpty with
  | true => simp [List.isEmpty_iff.mp ended, eq_comm]
  | false => simp [List.isEmpty_eq_false_iff.mp ended]

theorem readAll_eq_ok {reader : Reader α} {input : Bytes} {value : α} :
    reader.readAll input = .ok value ↔
      ∃ after, reader.run (Cursor.start input) = .ok value after ∧ after.rest = [] := by
  have whole (result : α) (after : Cursor) :
      (do let value ← reader; finish; return value : Reader α).run (Cursor.start input) =
        .ok result after ↔ reader.run (Cursor.start input) = .ok result after ∧
        after.rest = [] := by
    simp only [run_bind_eq_ok, run_finish_eq_ok, run_pure_eq_ok]
    constructor
    · intro steps
      rcases steps with ⟨_, _, read, _, _, ⟨rfl, rest⟩, rfl, rfl⟩
      exact ⟨read, rest⟩
    · intro whole
      rcases whole with ⟨read, rest⟩
      exact ⟨result, after, read, (), after, ⟨rfl, rest⟩, rfl, rfl⟩
  simp only [← whole, readAll, runFrom]
  cases (do let value ← reader; finish; return value : Reader α).run (Cursor.start input) with
  | ok found after => simp
  | error failure after => simp

/-- A whole input is read as its reader runs, and refused if bytes remain. -/
theorem readAll_eq (reader : Reader α) (input : Bytes) :
    reader.readAll input = match reader.runFrom (Cursor.start input) with
      | (.ok value, after) =>
        if after.atEnd then .ok value
        else .error (Failure.xdr s!"{after.remaining} trailing bytes after xdr value")
      | (.error failure, _) => .error failure := by
  unfold readAll runFrom
  cases run : reader.run (Cursor.start input) with
  | error failure after =>
    rw [run_bind_of_error run]
  | ok value after =>
    rw [run_bind_of_ok run]
    cases ended : after.atEnd with
    | true =>
      have finished : finish.run after = .ok () after :=
        run_finish_eq_ok.mpr ⟨rfl, List.isEmpty_iff.mp ended⟩
      rw [run_bind_of_ok finished]
      exact (if_pos ended).symm
    | false =>
      have refused : finish.run after =
          .error (Failure.xdr s!"{after.remaining} trailing bytes after xdr value") after := by
        change (if after.atEnd then pure () else malformed _ : Reader Unit).run after = _
        rw [ended]
        rfl
      rw [run_bind_of_error refused]
      exact (if_neg (Bool.eq_false_iff.mp ended)).symm

/-! ### Readers that take the same bytes anywhere -/

/-- The reader takes exactly these bytes to this value, wherever they stand and whatever follows. -/
def Yields (reader : Reader α) (front : Bytes) (value : α) : Prop :=
  ∀ offset rest, reader.run ⟨offset, front ++ rest⟩ = .ok value ⟨offset + front.length, rest⟩

theorem yields_pure (value : α) : Yields (pure value) [] value := by
  intro offset rest
  simp

theorem Yields.bind {reader : Reader α} {next : α → Reader β} {front back : Bytes} {value : α}
    {result : β} (first : Yields reader front value) (second : Yields (next value) back result) :
    Yields (reader >>= next) (front ++ back) result := by
  intro offset rest
  rw [run_bind_eq_ok]
  refine ⟨value, ⟨offset + front.length, back ++ rest⟩, ?_, ?_⟩
  · rw [List.append_assoc]
    exact first offset (back ++ rest)
  · rw [List.length_append, ← Nat.add_assoc]
    exact second (offset + front.length) rest

theorem Yields.bind_nil {reader : Reader α} {next : α → Reader β} {front : Bytes} {value : α}
    {result : β} (first : Yields reader front value) (second : Yields (next value) [] result) :
    Yields (reader >>= next) front result := by
  simpa using first.bind second

theorem Yields.map {reader : Reader α} {front : Bytes} {value : α}
    (yields : Yields reader front value)
    (f : α → β) : Yields (f <$> reader) front (f value) := by
  intro offset rest
  exact run_map_eq_ok.mpr ⟨value, yields offset rest, rfl⟩

theorem yields_ofExcept {result : Except Failure α} {value : α} (found : result = .ok value) :
    Yields (ofExcept result) [] value := by
  intro offset rest
  simp [found]

theorem yields_take {n : Int} {bytes : Bytes} (length : (bytes.length : Int) = n) :
    Yields (take n) bytes bytes := by
  intro offset rest
  rw [run_take_eq_ok]
  exact ⟨length, rfl, rfl⟩

/-- From the same bytes a reader yields the same value, and no less of them. -/
theorem Yields.unique {reader : Reader α} {first second rest tail : Bytes} {value result : α}
    (left : Yields reader first value) (right : Yields reader second result)
    (same : first ++ rest = second ++ tail) : value = result ∧ first = second := by
  have fromLeft := left 0 rest
  rw [same, right 0 tail] at fromLeft
  simp only [EStateM.Result.ok.injEq, Cursor.mk.injEq] at fromLeft
  refine ⟨fromLeft.1.symm, ?_⟩
  exact (List.append_inj same (by omega)).1

end LedgerWire.Wire.Reader
