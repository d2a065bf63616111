import LedgerWire.Text.Quoted

/-!
Contract: ASCII, from text to bytes and back, with an exact account of what is foreign to it.

Owns:
- `Ascii.encode?` and `Ascii.decode`;
- the first run of foreign characters of a text, and the first foreign byte of a byte string, each
  with its wording.

Does not own: which texts have to be ASCII.
-/

namespace LedgerWire.Text.Ascii

/-- Neighbouring characters outside ASCII, and the position of the first. -/
structure ForeignRun where
  position : Nat
  chars : List Char
  deriving DecidableEq, Repr

/-- A single character is named by its code point, several by their positions. -/
def ForeignRun.message (run : ForeignRun) : String :=
  let place :=
    match run.chars with
    | [c] => "character '" ++ String.ofList (escapeCodePoint c) ++ s!"' in position {run.position}"
    | chars => s!"characters in position {run.position}-{run.position + chars.length - 1}"
  "'ascii' codec can't encode " ++ place ++ ": ordinal not in range(128)"

/-- The first run of characters outside ASCII, if there is one. -/
def foreignRun? (text : String) : Option ForeignRun :=
  let chars := text.toList
  let before := chars.takeWhile fun c => c.toNat < 0x80
  let run := (chars.drop before.length).takeWhile fun c => 0x80 ≤ c.toNat
  if run.isEmpty then none else some ⟨before.length, run⟩

/-- The bytes of a text, or nothing if it holds a foreign character. -/
def encode? (text : String) : Option Bytes :=
  text.toList.mapM fun c => if c.toNat < 0x80 then some (UInt8.ofNat c.toNat) else none

/-- A byte outside ASCII, and its position. -/
structure ForeignByte where
  position : Nat
  value : UInt8
  deriving DecidableEq, Repr

/-- The byte is named by its value and position. -/
def ForeignByte.message (b : ForeignByte) : String :=
  s!"'ascii' codec can't decode byte 0x{Bytes.toHex [b.value]} in position {b.position}: " ++
    "ordinal not in range(128)"

/-- The text of a byte string, or its first foreign byte. -/
def decode (bytes : Bytes) : Except ForeignByte String :=
  match bytes.findIdx? (0x80 ≤ ·) with
  | none => .ok (String.ofList (bytes.map fun b => Char.ofNat b.toNat))
  | some position => .error ⟨position, bytes.getD position 0⟩

end LedgerWire.Text.Ascii
