import Mathlib.Tactic
import LedgerWire.Wire.Codec

/-!
Contract: the bytes of a number and the number of some bytes are inverse to each other.

Owns:
- the laws of big-endian digits of a fixed width;
- `Integer.ofBytes_toBytes` and `Integer.toBytes_ofBytes`, for all four number formats.

Does not own: where in a layout a number stands.
-/

namespace LedgerWire

namespace Bytes

/-! ### Big-endian digits -/

@[simp] theorem toNatBE_nil : toNatBE [] = 0 := rfl

@[simp] theorem toNatBE_concat (bytes : Bytes) (last : UInt8) :
    toNatBE (bytes ++ [last]) = toNatBE bytes * 256 + last.toNat := by
  simp [toNatBE]

theorem toNatBE_ofNatBE (width n : Nat) : toNatBE (ofNatBE width n) = n % 256 ^ width := by
  induction width generalizing n with
  | zero => simp [ofNatBE, Nat.mod_one]
  | succ width inductionHypothesis =>
    rw [ofNatBE, toNatBE_concat, inductionHypothesis, Nat.pow_succ, Nat.mul_comm (256 ^ width),
      Nat.mod_mul, UInt8.toNat_ofNat']
    omega

theorem ofNatBE_toNatBE (bytes : Bytes) : ofNatBE bytes.length (toNatBE bytes) = bytes := by
  induction bytes using List.reverseRecOn with
  | nil => rfl
  | append_singleton bytes last inductionHypothesis =>
    have lastLt := last.toNat_lt
    have higher : (toNatBE bytes * 256 + last.toNat) / 256 = toNatBE bytes := by omega
    have lowest : UInt8.ofNat (toNatBE bytes * 256 + last.toNat) = last := by
      apply UInt8.toNat.inj
      rw [UInt8.toNat_ofNat']
      omega
    rw [toNatBE_concat, List.length_append, List.length_singleton, ofNatBE, higher,
      inductionHypothesis, lowest]

theorem toNatBE_lt (bytes : Bytes) : toNatBE bytes < 256 ^ bytes.length := by
  rw [← ofNatBE_toNatBE bytes, length_ofNatBE, toNatBE_ofNatBE]
  exact Nat.mod_lt _ (by positivity)

end Bytes

namespace Wire.Integer

/-! ### Number formats -/

@[simp] theorem length_toBytes (format : Integer) (n : Int) :
    (format.toBytes n).length = format.width := by
  simp [toBytes]

/-- The number of some bytes is their big-endian value, less the modulus where that is too great. -/
theorem ofBytes_cases (format : Integer) (bytes : Bytes) :
    (Bytes.toNatBE bytes : Int) ≤ format.greatest ∧ format.ofBytes bytes = Bytes.toNatBE bytes ∨
      format.greatest < Bytes.toNatBE bytes ∧
        format.ofBytes bytes = Bytes.toNatBE bytes - 256 ^ format.width := by
  simp only [ofBytes]
  split
  · exact Or.inl ⟨‹_›, rfl⟩
  · exact Or.inr ⟨by omega, rfl⟩

theorem ofBytes_toBytes {format : Integer} {n : Int} (fits : format.Fits n) :
    format.ofBytes (format.toBytes n) = n := by
  rcases fits with ⟨atLeast, atMost⟩
  have digits : Bytes.toNatBE (format.toBytes n) = (n % 256 ^ format.width).toNat := by
    rw [toBytes, Bytes.toNatBE_ofNatBE]
    cases format <;> simp only [width] <;> omega
  rcases ofBytes_cases format (format.toBytes n) with ⟨bound, value⟩ | ⟨bound, value⟩ <;>
    rw [value, digits] <;> rw [digits] at bound <;>
    cases format <;> simp only [width, least, greatest] at * <;> omega

theorem fits_ofBytes {format : Integer} {bytes : Bytes} (length : bytes.length = format.width) :
    format.Fits (format.ofBytes bytes) := by
  have below := Bytes.toNatBE_lt bytes
  rw [length] at below
  rcases ofBytes_cases format bytes with ⟨bound, value⟩ | ⟨bound, value⟩ <;> rw [Fits, value] <;>
    cases format <;> simp only [width, least, greatest] at * <;> omega

theorem toBytes_ofBytes {format : Integer} {bytes : Bytes} (length : bytes.length = format.width) :
    format.toBytes (format.ofBytes bytes) = bytes := by
  have below := Bytes.toNatBE_lt bytes
  rw [length] at below
  have digits : (format.ofBytes bytes % 256 ^ format.width).toNat = Bytes.toNatBE bytes := by
    rcases ofBytes_cases format bytes with ⟨bound, value⟩ | ⟨bound, value⟩ <;> rw [value] <;>
      cases format <;> simp only [width, greatest] at * <;> omega
  rw [toBytes, digits, ← length, Bytes.ofNatBE_toNatBE]

end Wire.Integer

end LedgerWire
