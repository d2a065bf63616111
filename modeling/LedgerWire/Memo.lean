import LedgerWire.Wire.Codec

/-!
Contract: memos that transactions carry: a short text, a number, or a hash, which may be given short
and is then filled up with zero bytes.

Owns:
- `Memo` and its wire form.

Does not own: what recipients make of a memo.
-/

namespace LedgerWire

open Wire

inductive MemoKind where
  | absent
  | text
  | id
  | hash
  | returnHash
  deriving DecidableEq, Repr

namespace MemoKind

def all : List MemoKind := [.absent, .text, .id, .hash, .returnHash]

def number : MemoKind → Int
  | .absent => 0
  | .text => 1
  | .id => 2
  | .hash => 3
  | .returnHash => 4

def name : MemoKind → String
  | .absent => "NONE"
  | .text => "TEXT"
  | .id => "ID"
  | .hash => "HASH"
  | .returnHash => "RETURN"

end MemoKind

inductive Memo where
  | absent
  | text (value : String) (fits : Text.Utf8.size value ≤ 28)
  | id (value : Nat) (fits : value < 2 ^ 64)
  | hash (value : FixedBytes 32)
  | returnHash (value : FixedBytes 32)
  deriving DecidableEq

namespace Memo

def maxTextSize : Nat := 28

def ofText (value : String) : Except Failure Memo :=
  if h : Text.Utf8.size value ≤ 28 then .ok (.text value h)
  else .error (Failure.withDetail .invalidMemoText "length" (.number (Text.Utf8.size value)))

theorem toNat_fits {value : Int} (h : 0 ≤ value ∧ value < 2 ^ 64) : value.toNat < 2 ^ 64 := by
  omega

def ofId (value : Int) : Except Failure Memo :=
  if h : 0 ≤ value ∧ value < 2 ^ 64 then .ok (.id value.toNat (toNat_fits h))
  else .error (Failure.xdr s!"memo id out of uint64 range: {value}")

/-- Bytes filled up to a width with zeros. -/
def fill (bytes : Bytes) (h : bytes.length ≤ 32) : FixedBytes 32 :=
  ⟨bytes ++ List.replicate (32 - bytes.length) 0, by simp; omega⟩

def ofHash (value : Bytes) : Except Failure Memo :=
  if h : value.length ≤ 32 then .ok (.hash (fill value h))
  else .error (Failure.withDetail .invalidMemoHash "length" (.number value.length))

def ofReturnHash (value : Bytes) : Except Failure Memo :=
  if h : value.length ≤ 32 then .ok (.returnHash (fill value h))
  else .error (Failure.withDetail .invalidMemoReturn "length" (.number value.length))

def kind : Memo → MemoKind
  | .absent => .absent
  | .text _ _ => .text
  | .id _ _ => .id
  | .hash _ => .hash
  | .returnHash _ => .returnHash

def text? : Memo → Option String
  | .text value _ => some value
  | _ => none

def id? : Memo → Option Nat
  | .id value _ => some value
  | _ => none

def hash? : Memo → Option (FixedBytes 32)
  | .hash value => some value
  | _ => none

def returnHash? : Memo → Option (FixedBytes 32)
  | .returnHash value => some value
  | _ => none

def describe (memo : Memo) : String :=
  let value :=
    match memo with
    | .absent => "None"
    | .text value _ => Text.quoted value
    | .id value _ => toString value
    | .hash value => Text.quotedBytes value.bytes
    | .returnHash value => Text.quotedBytes value.bytes
  s!"Memo({memo.kind.name}, {value})"

def kinds (kind : Int) : Option (Codec Memo) :=
  if kind = 0 then
    some (Codec.nothing.arm (fun _ => .absent) fun | .absent => some () | _ => none)
  else if kind = 1 then
    some ((Codec.text (some 28)).refine ofText fun memo => memo.text?.getD "")
  else if kind = 2 then
    some (Codec.uint64.refine ofId fun memo => (memo.id?.getD 0 : Nat))
  else if kind = 3 then
    some ((Codec.fixedBytes 32).arm .hash hash?)
  else if kind = 4 then
    some ((Codec.fixedBytes 32).arm .returnHash returnHash?)
  else
    none

def codec : Codec Memo :=
  Codec.union Codec.int32 (·.kind.number) kinds
    (fun kind => Failure.xdrBecause s!"unknown memo type: {kind}"
      s!"{kind} is not a valid MemoType")

end Memo

end LedgerWire
