import LedgerWire.Proofs.Text.Utf8
import LedgerWire.Proofs.Wire.Law
import LedgerWire.Proofs.Wire.Number

/-!
Contract: the law of the primitive layouts, and of optional values and lists of lawful ones.

Owns:
- faithfulness of numbers, truth values, byte strings, texts, fixed bytes and reserved numbers;
- the law for `optional` and `array`.

Does not own: the law itself and its other passages, which stand in `Proofs.Wire.Law`.
-/

namespace LedgerWire.Wire.Codec

variable {α : Type}

/-! ### Numbers -/

theorem write_integer_eq_done_iff {format : Integer} {n : Int} {bytes : Bytes} :
    (integer format).write n = .done bytes ↔ format.Fits n ∧ bytes = format.toBytes n := by
  simp only [integer]
  split
  · simp [Output.done, *, eq_comm]
  · simp [Output.failed, Output.done, *]

/-- Two's complement big-endian bytes spell every number that fits, and each in one way. -/
theorem faithful_integer (format : Integer) : (integer format).Faithful := by
  apply faithful_of_yields
  · intro cursor n after read
    simp only [integer, Outcome.run_bind_eq_ok, Reader.run_take_eq_ok,
      Outcome.run_pure_eq_ok] at read
    rcases read with ⟨bytes, _, ⟨length, split, -⟩, rfl, rfl⟩
    have counted : bytes.length = format.width := by exact_mod_cast length
    refine ⟨bytes, split, write_integer_eq_done_iff.mpr ⟨Integer.fits_ofBytes counted, ?_⟩⟩
    rw [Integer.toBytes_ofBytes counted]
  · intro n bytes written
    rcases write_integer_eq_done_iff.mp written with ⟨fits, rfl⟩
    apply (Reader.yields_take (by simp)).bind_nil
    rw [Integer.ofBytes_toBytes fits]
    exact Reader.yields_pure n

theorem length_of_write_integer {format : Integer} {n : Int} {bytes : Bytes}
    (written : (integer format).write n = .done bytes) : bytes.length = format.width := by
  rcases write_integer_eq_done_iff.mp written with ⟨-, rfl⟩
  exact Integer.length_toBytes format n

theorem faithful_int32 : int32.Faithful := faithful_integer .int32

theorem faithful_uint32 : uint32.Faithful := faithful_integer .uint32

theorem faithful_int64 : int64.Faithful := faithful_integer .int64

theorem faithful_uint64 : uint64.Faithful := faithful_integer .uint64

theorem wide_integer (format : Integer) : (integer format).Wide := by
  intro n bytes written
  rw [length_of_write_integer written]
  cases format <;> decide

theorem nonneg_of_read_uint32 {cursor after : Cursor} {n : Int}
    (read : uint32.read.run cursor = .ok n after) : 0 ≤ n := by
  rcases faithful_uint32.canonical read with ⟨_, -, written, -⟩
  exact (write_integer_eq_done_iff.mp written).1.1

/-! ### Truth values -/

theorem faithful_bool : bool.Faithful := by
  apply faithful_of_yields
  · intro cursor flag after read
    simp only [bool, Outcome.run_bind_eq_ok] at read
    rcases read with ⟨n, between, readNumber, read⟩
    rcases faithful_uint32.canonical readNumber with ⟨front, split, written, -⟩
    split_ifs at read with isZero isOne
    · rcases Outcome.run_pure_eq_ok.mp read with ⟨rfl, rfl⟩
      exact ⟨front, split, by simpa [bool, isZero] using written⟩
    · rcases Outcome.run_pure_eq_ok.mp read with ⟨rfl, rfl⟩
      exact ⟨front, split, by simpa [bool, isOne] using written⟩
    · exact absurd read Reader.run_malformed_ne_ok
  · intro flag bytes written
    apply (faithful_uint32.yields written).bind_nil
    cases flag with
    | false => exact Reader.yields_pure false
    | true => exact Reader.yields_pure true

theorem wide_bool : bool.Wide := fun _ _ written => wide_integer .uint32 written

/-! ### Byte strings -/

theorem run_skipPadding_eq_ok {n : Nat} {done : Unit} {cursor after : Cursor} :
    (skipPadding n).run cursor = .ok done after ↔
      cursor.rest = List.replicate (paddingLength n) 0 ++ after.rest ∧
        after.offset = cursor.offset + paddingLength n := by
  simp only [skipPadding, Outcome.run_bind_eq_ok, Reader.run_take_eq_ok]
  constructor
  · intro steps
    rcases steps with ⟨padding, between, ⟨length, split, offset⟩, read⟩
    split_ifs at read with zeros
    · rcases Outcome.run_pure_eq_ok.mp read with ⟨-, rfl⟩
      have counted : padding.length = paddingLength n := by exact_mod_cast length
      have filled : padding = List.replicate (paddingLength n) 0 := by
        rw [List.eq_replicate_iff]
        exact ⟨counted, by simpa using zeros⟩
      exact ⟨by rw [split, filled], by rw [offset, counted]⟩
    · exact absurd read Reader.run_malformed_ne_ok
  · intro zeros
    rcases zeros with ⟨split, offset⟩
    refine ⟨List.replicate (paddingLength n) 0, after, ⟨by simp, split, by simpa using offset⟩, ?_⟩
    simp

theorem yields_skipPadding (n : Nat) :
    (skipPadding n).Yields (List.replicate (paddingLength n) 0) () := by
  intro offset rest
  rw [run_skipPadding_eq_ok]
  exact ⟨rfl, by simp⟩

theorem faithful_bytesExactly (n : Int) : (bytesExactly n).Faithful := by
  apply faithful_of_yields
  · intro cursor bytes after read
    simp only [bytesExactly, Outcome.run_bind_eq_ok, Reader.run_take_eq_ok, run_skipPadding_eq_ok,
      Outcome.run_pure_eq_ok] at read
    rcases read with ⟨_, between, ⟨length, split, -⟩, -, _, ⟨padding, -⟩, rfl, rfl⟩
    refine ⟨padded bytes, ?_, by simp [bytesExactly, length]⟩
    rw [split, padding, padded, List.append_assoc]
  · intro value bytes written
    simp only [bytesExactly] at written
    split_ifs at written with length
    · cases written
      exact (Reader.yields_take length).bind
        ((yields_skipPadding value.length).bind_nil (Reader.yields_pure value))
    · cases written

theorem write_bytes_eq_done_iff {limit? : Option Int} {value bytes : Bytes} :
    (Codec.bytes limit?).write value = .done bytes ↔
      exceeded? limit? value.length = none ∧
        (uint32.write value.length ++ Output.done (padded value)) = .done bytes := by
  simp only [Codec.bytes]
  split
  · simp [Output.failed, Output.done, *]
  · simp [*]

theorem faithful_bytes (limit? : Option Int) : (Codec.bytes limit?).Faithful := by
  have written_exactly (value : Bytes) :
      (bytesExactly value.length).write value = .done (padded value) := by
    simp [bytesExactly]
  apply faithful_of_yields
  · intro cursor value after read
    simp only [Codec.bytes, Outcome.run_bind_eq_ok] at read
    rcases read with ⟨n, between, readLength, read⟩
    cases within : exceeded? limit? n with
    | some limit => simp [within] at read
    | none =>
      simp only [within] at read
      rcases faithful_uint32.canonical readLength with ⟨front, split, writtenLength, -⟩
      rcases (faithful_bytesExactly n).canonical read with ⟨back, split', written, -⟩
      have length : (value.length : Int) = n := by
        by_contra other
        simp [bytesExactly, other, Output.failed, Output.done] at written
      subst length
      rw [written_exactly] at written
      refine ⟨front ++ back, by rw [split, split', List.append_assoc], ?_⟩
      rw [write_bytes_eq_done_iff, writtenLength, written, Output.done_append_done]
      exact ⟨within, rfl⟩
  · intro value bytes written
    rcases write_bytes_eq_done_iff.mp written with ⟨within, written⟩
    rcases Output.append_eq_done_iff.mp written with ⟨front, back, writtenLength, writtenBytes, rfl⟩
    apply (faithful_uint32.yields writtenLength).bind
    simp only [within]
    exact (faithful_bytesExactly value.length).yields ((written_exactly value).trans writtenBytes)

/-! ### Texts -/

/-- The text of a byte string that is one. -/
def textOfBytes (bytes : Bytes) : Except Failure String :=
  match Text.Utf8.decode bytes with
  | .ok value => .ok value
  | .error fault => .error (Failure.xdrBecause "string is not valid utf-8" fault.message)

/-- Texts are the byte strings that are UTF-8. -/
theorem text_eq_refine (limit? : Option Int) :
    text limit? = (Codec.bytes limit?).refine textOfBytes Text.Utf8.encode := by
  simp only [text, Codec.refine, Codec.mk.injEq, true_and]
  congr 1
  funext bytes
  rw [textOfBytes]
  cases Text.Utf8.decode bytes <;> rfl

theorem faithful_text (limit? : Option Int) : (text limit?).Faithful := by
  rw [text_eq_refine]
  refine (faithful_bytes limit?).refine ?_ ?_
  · intro bytes value _ _ accepted
    rw [textOfBytes] at accepted
    cases decoded : Text.Utf8.decode bytes with
    | error fault => simp [decoded] at accepted
    | ok found =>
      obtain rfl : found = value := by simpa [decoded] using accepted
      exact Text.Utf8.encode_of_decode decoded
  · intro value _ _
    rw [textOfBytes, Text.Utf8.decode_encode]

/-! ### Fixed bytes, reserved numbers, nothing -/

theorem faithful_fixedBytes (n : Nat) : (fixedBytes n).Faithful := by
  apply (faithful_bytesExactly n).refine
  · intro bytes value _ _ accepted
    split_ifs at accepted with length
    cases accepted
    rfl
  · intro value _ _
    simp [value.length_eq]

theorem write_fixedBytes {n : Nat} (value : FixedBytes n) :
    (fixedBytes n).write value = .done (padded value.bytes) := by
  simp [fixedBytes, Codec.refine, bytesExactly, value.length_eq]

theorem wide_fixedBytes {n : Nat} (enough : 4 ≤ n) : (fixedBytes n).Wide := by
  intro value bytes written
  rw [write_fixedBytes] at written
  cases written
  rw [padded, List.length_append, value.length_eq]
  omega

theorem faithful_reserved (unknown : Int → Failure) : (reserved unknown).Faithful := by
  apply faithful_int32.refine
  · intro n value _ _ accepted
    split_ifs at accepted with isZero
    exact isZero.symm
  · intro value _ _
    rfl

theorem faithful_nothing : nothing.Faithful := by
  apply faithful_of_yields
  · intro cursor value after read
    rcases Outcome.run_pure_eq_ok.mp read with ⟨-, rfl⟩
    exact ⟨[], rfl, rfl⟩
  · intro value bytes written
    cases written
    exact Reader.yields_pure value

end LedgerWire.Wire.Codec
