import LedgerWire.Wire.Codec

/-!
Contract: the flags of accounts and of trust lines, as sets of named bits. Flags are those that are
made from bits, where bits without a name are refused, and those that are read. Sets of bits that
come about in other ways, and may have bits without a name, are left out.

Owns:
- `AccountFlags` and `TrustLineFlags`, their names, and their wire forms.

Does not own: what the flags permit.
-/

namespace LedgerWire

open Wire

/-- The names, lowest bit first, of the bits that are set. -/
def namesOfBits (names : List String) (bits : Nat) : List String :=
  (names.zipIdx.filter fun entry => bits.testBit entry.2).map (·.1)

/-- Flags that the issuer of assets sets on its account. -/
structure AccountFlags where
  bits : Nat
  bits_lt : bits < 16
  deriving DecidableEq

namespace AccountFlags

/-- The names of the bits, lowest first. -/
def bitNames : List String :=
  ["AUTH_REQUIRED", "AUTH_REVOCABLE", "AUTH_IMMUTABLE", "AUTH_CLAWBACK_ENABLED"]

def ofBits (bits : Int) : Except Failure AccountFlags :=
  if h : 0 ≤ bits ∧ bits < 16 then .ok ⟨bits.toNat, by omega⟩
  else .error (Failure.withDetail .invalidAccountFlags "bits" (.number bits))

def names (flags : AccountFlags) : List String := namesOfBits bitNames flags.bits

def codec : Codec AccountFlags := Codec.uint32.refine ofBits (fun flags => (flags.bits : Int))

end AccountFlags

/-- Flags that say how far the holder of a trust line is authorized. -/
structure TrustLineFlags where
  bits : Nat
  bits_lt : bits < 8
  deriving DecidableEq

namespace TrustLineFlags

def bitNames : List String :=
  ["AUTHORIZED", "AUTHORIZED_TO_MAINTAIN_LIABILITIES", "TRUSTLINE_CLAWBACK_ENABLED"]

def empty : TrustLineFlags := ⟨0, by decide⟩

def ofBits (bits : Int) : Except Failure TrustLineFlags :=
  if h : 0 ≤ bits ∧ bits < 8 then .ok ⟨bits.toNat, by omega⟩
  else .error (Failure.withDetail .invalidTrustLineFlags "bits" (.number bits))

def names (flags : TrustLineFlags) : List String := namesOfBits bitNames flags.bits

def codec : Codec TrustLineFlags := Codec.uint32.refine ofBits (fun flags => (flags.bits : Int))

end TrustLineFlags

end LedgerWire
