import LedgerWire.Proofs.Wire.Collection
import LedgerWire.Proofs.Wire.Union

/-!
Contract: properties of what is read. A reader may yield fewer values than the type has that its
layout is for: what its parts never yield, and what its checks refuse, is not among them.

Owns:
- `Codec.Reads`, a property of every value that is read;
- its passage through the ways to put layouts together.

Does not own: what is written of such values.
-/

namespace LedgerWire.Wire.Codec

variable {α β γ : Type} {codec : Codec α} {P : α → Prop} {Q : β → Prop}

/-- Every value that is read has the property, wherever it is read. -/
def Reads (codec : Codec α) (P : α → Prop) : Prop :=
  ∀ ⦃cursor value after⦄, codec.read.run cursor = .ok value after → P value

theorem reads_of_forall (codec : Codec α) (all : ∀ value, P value) : codec.Reads P :=
  fun _ value _ _ => all value

theorem Reads.of_yields (reads : codec.Reads P) {bytes : Bytes} {value : α}
    (yields : codec.read.Yields bytes value) : P value :=
  reads (yields 0 [])

theorem Reads.of_decode (reads : codec.Reads P) {input : Bytes} {value : α}
    (decoded : codec.decode input = .ok value) : P value := by
  rcases Reader.readAll_eq_ok.mp decoded with ⟨after, read, -⟩
  exact reads read

theorem Reads.pair {first : Codec α} {second : Codec β} (readsFirst : first.Reads P)
    (readsSecond : second.Reads Q) : (first.pair second).Reads fun value =>
      P value.1 ∧ Q value.2 := by
  intro cursor value after read
  simp only [Codec.pair, Outcome.run_bind_eq_ok, Outcome.run_pure_eq_ok] at read
  rcases read with ⟨left, between, readLeft, right, _, readRight, rfl, rfl⟩
  exact ⟨readsFirst readLeft, readsSecond readRight⟩

theorem Reads.convert (reads : codec.Reads P) {build : α → β} {view : β → α}
    (keeps : ∀ ⦃x⦄, P x → Q (build x)) : (codec.convert build view).Reads Q := by
  intro cursor value after read
  simp only [Codec.convert, Outcome.run_bind_eq_ok, Outcome.run_pure_eq_ok] at read
  rcases read with ⟨content, _, read, rfl, rfl⟩
  exact keeps (reads read)

theorem Reads.refine (reads : codec.Reads P) {check : α → Except Failure β} {view : β → α}
    (keeps : ∀ ⦃x y⦄, P x → check x = .ok y → Q y) : (codec.refine check view).Reads Q := by
  intro cursor value after read
  simp only [Codec.refine, Outcome.run_bind_eq_ok, Reader.run_ofExcept_eq_ok] at read
  rcases read with ⟨content, _, read, checked, rfl⟩
  exact keeps (reads read) checked

theorem Reads.arm (reads : codec.Reads P) {build : α → β} {view? : β → Option α}
    (keeps : ∀ ⦃x⦄, P x → Q (build x)) : (codec.arm build view?).Reads Q := by
  intro cursor value after read
  simp only [Codec.arm, Outcome.run_bind_eq_ok, Outcome.run_pure_eq_ok] at read
  rcases read with ⟨content, _, read, rfl, rfl⟩
  exact keeps (reads read)

theorem Reads.union {tag : Codec γ} {tagOf : β → γ} {arms : γ → Option (Codec β)}
    {unknown : γ → Failure} (armReads : ∀ ⦃kind arm⦄, arms kind = some arm → arm.Reads Q) :
    (union tag tagOf arms unknown).Reads Q := by
  intro cursor value after read
  simp only [Codec.union, Outcome.run_bind_eq_ok] at read
  rcases read with ⟨kind, between, -, read⟩
  cases found : arms kind with
  | none => simp [found] at read
  | some arm =>
    simp only [found] at read
    exact armReads found read

theorem Reads.optional (reads : codec.Reads P) :
    codec.optional.Reads fun value => ∀ x ∈ value, P x := by
  intro cursor value after read
  simp only [Codec.optional, Outcome.run_bind_eq_ok] at read
  rcases read with ⟨present, between, -, read⟩
  cases present with
  | false =>
    rcases Outcome.run_pure_eq_ok.mp read with ⟨rfl, rfl⟩
    intro x missing
    cases missing
  | true =>
    simp only [if_true, Outcome.run_bind_eq_ok, Outcome.run_pure_eq_ok] at read
    rcases read with ⟨content, _, read, rfl, rfl⟩
    intro x same
    cases same
    exact reads read

theorem Reads.times (reads : codec.Reads P) {n : Nat} {items : List α} {cursor after : Cursor}
    (read : (Reader.times codec.read n).run cursor = .ok items after) : ∀ x ∈ items, P x := by
  induction n generalizing items cursor with
  | zero =>
    rcases Outcome.run_pure_eq_ok.mp read with ⟨rfl, rfl⟩
    intro x missing
    cases missing
  | succ n inductionHypothesis =>
    simp only [Reader.times, Outcome.run_bind_eq_ok, Outcome.run_pure_eq_ok] at read
    rcases read with ⟨first, between, readFirst, rest, _, readRest, rfl, rfl⟩
    exact List.forall_mem_cons.mpr ⟨reads readFirst, inductionHypothesis readRest⟩

theorem Reads.array (reads : codec.Reads P) (limit? : Option Int) :
    (codec.array limit?).Reads fun items => ∀ x ∈ items, P x := by
  intro cursor items after read
  simp only [read_array, Outcome.run_bind_eq_ok] at read
  rcases read with ⟨n, between, -, read⟩
  cases within : exceeded? limit? n with
  | some limit => simp [within] at read
  | none =>
    simp only [within, run_readCounted_eq_ok] at read
    exact reads.times read.2

end LedgerWire.Wire.Codec
