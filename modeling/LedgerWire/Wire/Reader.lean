import LedgerWire.Fault

/-!
Contract: reading bytes in order. A reader yields a value and moves a cursor, or fails and leaves
the cursor where the last complete part ended. Every message that names a position counts bytes from
the start of the input.

Owns:
- `Cursor`, `Reader`, and the primitive that takes a number of bytes;
- the check that nothing is left.

Does not own: how any value is laid out.
-/

namespace LedgerWire.Wire

/-- A position in the input: the number of bytes read and the bytes to come. -/
structure Cursor where
  offset : Nat
  rest : Bytes
  deriving DecidableEq, Repr

namespace Cursor

def start (input : Bytes) : Cursor := ⟨0, input⟩

def remaining (cursor : Cursor) : Nat := cursor.rest.length

def atEnd (cursor : Cursor) : Bool := cursor.rest.isEmpty

def advance (cursor : Cursor) (n : Nat) : Cursor :=
  ⟨cursor.offset + n, cursor.rest.drop n⟩

end Cursor

/-- A computation that reads: a failure keeps the cursor at the point it reached. -/
abbrev Reader := EStateM Failure Cursor

namespace Reader

/-- Fails with malformed data, in the given words. -/
def malformed {α : Type} (message : String) : Reader α :=
  throw (Failure.xdr message)

/-- Continues with a result that does not depend on the input. -/
def ofExcept {α : Type} : Except Failure α → Reader α
  | .ok value => pure value
  | .error failure => throw failure

/-- The next `n` bytes. -/
def take (n : Int) : Reader Bytes := fun cursor =>
  let taken := cursor.rest.take n.toNat
  if (taken.length : Int) = n then
    .ok taken (cursor.advance n.toNat)
  else
    .error
      (Failure.xdr s!"unexpected end of data: wanted {n} bytes at offset {cursor.offset}") cursor

/-- Fails if bytes remain. -/
def finish : Reader Unit := do
  let cursor ← get
  if cursor.atEnd then
    pure ()
  else
    malformed s!"{cursor.remaining} trailing bytes after xdr value"

/-- The values of a reader run `n` times. -/
def times {α : Type} (reader : Reader α) : Nat → Reader (List α)
  | 0 => pure []
  | n + 1 => do
    let value ← reader
    return value :: (← times reader n)

/-- The result and the cursor after reading. -/
def runFrom {α : Type} (reader : Reader α) (cursor : Cursor) : Except Failure α × Cursor :=
  match reader.run cursor with
  | .ok value after => (.ok value, after)
  | .error failure after => (.error failure, after)

def readAll {α : Type} (reader : Reader α) (input : Bytes) : Except Failure α :=
  (runFrom (do let value ← reader; finish; return value) (Cursor.start input)).1

end Reader

end LedgerWire.Wire
