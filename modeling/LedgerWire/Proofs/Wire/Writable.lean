import LedgerWire.Proofs.Wire.Collection
import LedgerWire.Proofs.Wire.Union

/-!
Contract: which values a codec writes. A layout writes a value exactly if each part of it writes its
own, so the values that cannot be written are told from the limits of the parts.

Owns:
- `Codec.Writable`, with one equivalence for each primitive and each way to put codecs together.

Does not own: what is written.
-/

namespace LedgerWire.Wire

namespace Codec

variable {α β γ : Type}

/-- Whether a value has a form in the layout. -/
def Writable (codec : Codec α) (value : α) : Prop := ∃ bytes, codec.write value = .done bytes

theorem exists_encode_iff {codec : Codec α} {value : α} :
    (∃ bytes, codec.encode value = .ok bytes) ↔ codec.Writable value := by
  simp only [encode_eq_ok_iff, Writable]

/-! ### Primitives -/

theorem writable_integer {format : Integer} {n : Int} :
    (integer format).Writable n ↔ format.Fits n := by
  constructor
  · intro written
    obtain ⟨bytes, written⟩ := written
    exact (write_integer_eq_done_iff.mp written).1
  · intro fits
    exact ⟨_, write_integer_eq_done_iff.mpr ⟨fits, rfl⟩⟩

@[simp] theorem writable_int32 {n : Int} : int32.Writable n ↔ Integer.int32.Fits n :=
    writable_integer

@[simp] theorem writable_uint32 {n : Int} : uint32.Writable n ↔ Integer.uint32.Fits n :=
    writable_integer

@[simp] theorem writable_int64 {n : Int} : int64.Writable n ↔ Integer.int64.Fits n :=
    writable_integer

@[simp] theorem writable_uint64 {n : Int} : uint64.Writable n ↔ Integer.uint64.Fits n :=
    writable_integer

@[simp] theorem writable_bool (flag : Bool) : bool.Writable flag := by
  cases flag with
  | false => exact ⟨_, rfl⟩
  | true => exact ⟨_, rfl⟩

@[simp] theorem writable_nothing (value : Unit) : nothing.Writable value := ⟨[], rfl⟩

@[simp] theorem writable_fixedBytes {n : Nat} (value : FixedBytes n) :
    (fixedBytes n).Writable value :=
  ⟨_, write_fixedBytes value⟩

theorem writable_bytesExactly {n : Int} {value : Bytes} :
    (bytesExactly n).Writable value ↔ value.length = n := by
  simp only [Writable, bytesExactly]
  by_cases length : value.length = n
  · simp [length, Output.done]
  · simp [length, Output.failed, Output.done]

theorem exceeded?_eq_none_iff {limit count : Int} :
    exceeded? (some limit) count = none ↔ count ≤ limit := by
  simp [exceeded?, Option.filter]

/-! ### Composition -/

theorem writable_append {first second : Output} :
    (∃ bytes, first ++ second = .done bytes) ↔
      (∃ bytes, first = .done bytes) ∧ ∃ bytes, second = .done bytes := by
  simp only [Output.append_eq_done_iff]
  constructor
  · intro parts
    obtain ⟨_, front, back, writtenFront, writtenBack, -⟩ := parts
    exact ⟨⟨front, writtenFront⟩, ⟨back, writtenBack⟩⟩
  · intro parts
    obtain ⟨⟨front, writtenFront⟩, ⟨back, writtenBack⟩⟩ := parts
    exact ⟨_, front, back, writtenFront, writtenBack, rfl⟩

@[simp] theorem writable_pair {first : Codec α} {second : Codec β} {value : α × β} :
    (first.pair second).Writable value ↔ first.Writable value.1 ∧ second.Writable value.2 :=
  writable_append

@[simp] theorem writable_convert {codec : Codec α} {build : α → β} {view : β → α} {value : β} :
    (codec.convert build view).Writable value ↔ codec.Writable (view value) := Iff.rfl

@[simp] theorem writable_refine {codec : Codec α} {check : α → Except Failure β} {view : β → α}
    {value : β} :
    (codec.refine check view).Writable value ↔ codec.Writable (view value) := Iff.rfl

@[simp] theorem writable_optional {codec : Codec α} {value : Option α} :
    codec.optional.Writable value ↔ ∀ content ∈ value, codec.Writable content := by
  cases value with
  | none => exact iff_of_true (writable_bool false) nofun
  | some content =>
    have parts : codec.optional.Writable (some content) ↔ bool.Writable true ∧
        codec.Writable content :=
      writable_append
    simp [parts]

/-! ### Counts -/

theorem fits_count {count : Nat} {limit : Int} (small : limit ≤ Integer.uint32.greatest)
    (within : (count : Int) ≤ limit) : Integer.uint32.Fits count :=
  ⟨Int.natCast_nonneg count, Int.le_trans within small⟩

theorem writable_bytes (limit : Int) (small : limit ≤ Integer.uint32.greatest) {value : Bytes} :
    (Codec.bytes (some limit)).Writable value ↔ value.length ≤ limit := by
  simp only [Writable, write_bytes_eq_done_iff, exceeded?_eq_none_iff, exists_and_left,
    writable_append]
  constructor
  · intro parts
    exact parts.1
  · intro within
    exact ⟨within, writable_uint32.mpr (fits_count small within), ⟨_, rfl⟩⟩

theorem writable_text (limit : Int) (small : limit ≤ Integer.uint32.greatest) {value : String} :
    (text (some limit)).Writable value ↔ Text.Utf8.size value ≤ limit := by
  rw [text_eq_refine, writable_refine, writable_bytes limit small]
  rfl

theorem writable_writeAll {codec : Codec α} {items : List α} :
    (∃ bytes, codec.writeAll items = .done bytes) ↔ ∀ item ∈ items, codec.Writable item := by
  induction items with
  | nil => exact iff_of_true ⟨[], rfl⟩ nofun
  | cons first rest inductionHypothesis =>
    rw [writeAll_cons, writable_append, inductionHypothesis, List.forall_mem_cons]
    rfl

theorem writable_array {codec : Codec α} (limit : Int) (small : limit ≤ Integer.uint32.greatest)
    {items : List α} :
    (codec.array (some limit)).Writable items ↔
      items.length ≤ limit ∧ ∀ item ∈ items, codec.Writable item := by
  rw [← writable_writeAll]
  constructor
  · intro written
    obtain ⟨_, written⟩ := written
    obtain ⟨within, _, back, -, writtenItems, -⟩ := write_array_eq_done_iff.mp written
    exact ⟨exceeded?_eq_none_iff.mp within, back, writtenItems⟩
  · intro parts
    obtain ⟨within, back, writtenItems⟩ := parts
    obtain ⟨front, writtenCount⟩ := writable_uint32.mpr (fits_count small within)
    exact ⟨_, write_array_eq_done_iff.mpr
      ⟨exceeded?_eq_none_iff.mpr within, front, back, writtenCount, writtenItems, rfl⟩⟩

/-! ### Kinds -/

section

variable {tagOf : β → Int} {arms : Int → Option (Codec β)} {unknown : Int → Failure} {value : β}

/-- A value of a numbered kind is written if it is in the layout of that kind. -/
theorem writable_union (kind : Int) {arm : Codec β} (numbered : tagOf value = kind)
    (fits : Integer.int32.Fits kind) (found : arms kind = some arm) :
    (union int32 tagOf arms unknown).Writable value ↔ arm.Writable value := by
  subst numbered
  simp only [Writable, write_union_eq_done_iff]
  constructor
  · intro parts
    obtain ⟨_, _, _, back, same, -, written, -⟩ := parts
    cases found.symm.trans same
    exact ⟨back, written⟩
  · intro parts
    obtain ⟨front, writtenTag⟩ := writable_int32.mpr fits
    obtain ⟨back, written⟩ := parts
    exact ⟨_, arm, front, back, found, writtenTag, written, rfl⟩

theorem writable_arm {codec : Codec α} {build : α → β} {view? : β → Option α} {content : α}
    (viewed : view? value = some content) :
    (codec.arm build view?).Writable value ↔ codec.Writable content := by
  simp only [Writable, arm, viewed]

/-- A value of a numbered kind is written if its content is. -/
theorem writable_kind (kind : Int) {codec : Codec α} {build : α → β} {view? : β → Option α}
    {content : α}
    (numbered : tagOf value = kind) (fits : Integer.int32.Fits kind)
    (found : arms kind = some (codec.arm build view?)) (viewed : view? value = some content) :
    (union int32 tagOf arms unknown).Writable value ↔ codec.Writable content := by
  rw [writable_union kind numbered fits found, writable_arm viewed]

end

end Codec

end LedgerWire.Wire
