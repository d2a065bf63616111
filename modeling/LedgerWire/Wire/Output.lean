import LedgerWire.Fault

/-!
Contract: what writing produces. Writers emit bytes in order; the first failure stops the writing,
and what was emitted before it stays.

Owns:
- `Output`, its sequential composition, and its reading as an all-or-nothing result.

Does not own: how any value is laid out.
-/

namespace LedgerWire.Wire

/-- The bytes emitted, and the failure that ended the writing if there was one. -/
structure Output where
  bytes : Bytes
  failure : Option Failure
  deriving DecidableEq

namespace Output

def done (bytes : Bytes) : Output := ⟨bytes, none⟩

/-- A failure before any byte. -/
def failed (failure : Failure) : Output := ⟨[], some failure⟩

/-- One output after another; nothing follows a failure. -/
def andThen (first second : Output) : Output :=
  match first.failure with
  | none => ⟨first.bytes ++ second.bytes, second.failure⟩
  | some _ => first

instance : Append Output := ⟨andThen⟩

/-- Outputs in order, up to the first failure. -/
def concat (outputs : List Output) : Output :=
  outputs.foldr andThen (done [])

/-- All the bytes, or the failure. -/
def toExcept (output : Output) : Except Failure Bytes :=
  match output.failure with
  | none => .ok output.bytes
  | some failure => .error failure

@[simp] theorem done_append_done (first second : Bytes) :
    done first ++ done second = done (first ++ second) := rfl

@[simp] theorem failed_append (failure : Failure) (second : Output) :
    failed failure ++ second = failed failure := rfl

/-- A composition is complete exactly if both parts are, and then has the bytes of both. -/
theorem append_eq_done_iff {first second : Output} {bytes : Bytes} :
    first ++ second = done bytes ↔
      ∃ front back, first = done front ∧ second = done back ∧ bytes = front ++ back := by
  obtain ⟨front, ending⟩ := first
  obtain ⟨back, finish⟩ := second
  show andThen ⟨front, ending⟩ ⟨back, finish⟩ = done bytes ↔ _
  cases ending with
  | none =>
    constructor
    · intro h
      simp only [andThen, done, Output.mk.injEq] at h
      exact ⟨front, back, rfl, by simp [done, h.2], h.1.symm⟩
    · rintro ⟨front', back', h₁, h₂, rfl⟩
      simp only [done, Output.mk.injEq] at h₁ h₂
      simp [andThen, done, h₁.1, h₂.1, h₂.2]
  | some failure =>
    constructor
    · intro h
      simp [andThen, done] at h
    · rintro ⟨front', back', h₁, -, -⟩
      simp [done] at h₁

end Output

end LedgerWire.Wire
