import LedgerWire.Bytes

/-!
Contract: UTF-8, from text to bytes and back, with an exact account of the first fault.

A well-formed sequence is a lead byte followed by the continuation bytes that the lead announces;
overlong forms, surrogates and code points past U+10FFFF are excluded by narrowing the range of the
second byte. The first sequence that fails is reported with its position, the number of its bytes
that were in order, and the reason.

Owns:
- `Utf8.encode`, `Utf8.decode` and the wording of a decoding fault.

Does not own: length limits of text on the wire.
-/

namespace LedgerWire.Text

namespace Utf8

def encodeChar (c : Char) : Bytes :=
  let n := c.toNat
  if n < 0x80 then
    [UInt8.ofNat n]
  else if n < 0x800 then
    [UInt8.ofNat (0xC0 + n / 64), UInt8.ofNat (0x80 + n % 64)]
  else if n < 0x10000 then
    [UInt8.ofNat (0xE0 + n / 4096), UInt8.ofNat (0x80 + n / 64 % 64), UInt8.ofNat (0x80 + n % 64)]
  else
    [UInt8.ofNat (0xF0 + n / 262144), UInt8.ofNat (0x80 + n / 4096 % 64),
      UInt8.ofNat (0x80 + n / 64 % 64), UInt8.ofNat (0x80 + n % 64)]

def encode (text : String) : Bytes :=
  text.toList.flatMap encodeChar

def size (text : String) : Nat :=
  (encode text).length

/-- Why a sequence is not well formed. -/
inductive FaultReason where
  | invalidStart
  | invalidContinuation
  | unexpectedEnd
  deriving DecidableEq, Repr

/-- The first malformed sequence: its position, its length in bytes, its first byte, the reason. -/
structure DecodeFault where
  position : Nat
  length : Nat
  lead : UInt8
  reason : FaultReason
  deriving DecidableEq, Repr

def FaultReason.message : FaultReason → String
  | .invalidStart => "invalid start byte"
  | .invalidContinuation => "invalid continuation byte"
  | .unexpectedEnd => "unexpected end of data"

/-- One byte is named by its value, several by their positions. -/
def DecodeFault.message (fault : DecodeFault) : String :=
  if fault.length = 1 then
    s!"'utf-8' codec can't decode byte 0x{Bytes.toHex [fault.lead]} in position " ++
      s!"{fault.position}: " ++ fault.reason.message
  else
    s!"'utf-8' codec can't decode bytes in position {fault.position}-" ++
      s!"{fault.position + fault.length - 1}: " ++ fault.reason.message

/-- What a lead byte announces: the bits it contributes and the ranges of the bytes to follow. -/
def announce? (lead : UInt8) : Option (Nat × List (Nat × Nat)) :=
  let n := lead.toNat
  if n < 0x80 then some (n, [])
  else if n < 0xC2 then none
  else if n < 0xE0 then some (n - 0xC0, [(0x80, 0xBF)])
  else if n = 0xE0 then some (0, [(0xA0, 0xBF), (0x80, 0xBF)])
  else if n = 0xED then some (13, [(0x80, 0x9F), (0x80, 0xBF)])
  else if n < 0xF0 then some (n - 0xE0, [(0x80, 0xBF), (0x80, 0xBF)])
  else if n = 0xF0 then some (0, [(0x90, 0xBF), (0x80, 0xBF), (0x80, 0xBF)])
  else if n < 0xF4 then some (n - 0xF0, [(0x80, 0xBF), (0x80, 0xBF), (0x80, 0xBF)])
  else if n = 0xF4 then some (4, [(0x80, 0x8F), (0x80, 0xBF), (0x80, 0xBF)])
  else none

/-- Takes the announced continuation bytes off `rest`. `value` holds the bits so far; a failure
tells how many continuation bytes were in order and whether the data ended. -/
def continuation (value taken : Nat) :
    List (Nat × Nat) → Bytes → Except (Nat × FaultReason) (Nat × Bytes)
  | [], rest => .ok (value, rest)
  | _ :: _, [] => .error (taken, .unexpectedEnd)
  | (low, high) :: ranges, b :: rest =>
    if low ≤ b.toNat && b.toNat ≤ high then
      continuation (value * 64 + b.toNat % 64) (taken + 1) ranges rest
    else
      .error (taken, .invalidContinuation)

/-- Continuation bytes only shorten what is left. -/
theorem continuation_length_le
    {value taken : Nat}
    {ranges : List (Nat × Nat)}
    {rest : Bytes}
    {result : Nat × Bytes}
    (h : continuation value taken ranges rest = .ok result) :
    result.2.length ≤ rest.length := by
  induction ranges generalizing value taken rest with
  | nil => cases h; exact Nat.le_refl _
  | cons range ranges ih =>
    cases rest with
    | nil => cases h
    | cons b rest =>
      simp only [continuation] at h
      split at h
      · exact Nat.le_succ_of_le (ih h)
      · cases h

/-- The characters of the bytes from `position` on, or the first fault. -/
def decodeFrom (position : Nat) : Bytes → Except DecodeFault (List Char)
  | [] => .ok []
  | lead :: rest =>
    match announce? lead with
    | none => .error ⟨position, 1, lead, .invalidStart⟩
    | some (bits, ranges) =>
      match h : continuation bits 0 ranges rest with
      | .error (taken, reason) => .error ⟨position, taken + 1, lead, reason⟩
      | .ok (value, rest') =>
        (decodeFrom (position + 1 + ranges.length) rest').map (Char.ofNat value :: ·)
termination_by bytes => bytes.length
decreasing_by
  have := continuation_length_le h
  simp only [List.length_cons] at *
  omega

/-- The text that the bytes spell, or the first fault. -/
def decode (bytes : Bytes) : Except DecodeFault String :=
  (decodeFrom 0 bytes).map String.ofList

end Utf8

end LedgerWire.Text
