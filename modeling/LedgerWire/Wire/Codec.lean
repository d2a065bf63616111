import LedgerWire.Bytes.Base64
import LedgerWire.Text.Utf8
import LedgerWire.Wire.Output
import LedgerWire.Wire.Reader

/-!
Contract: the wire format, as pairs of a writer and a reader.

The format is the external data representation of RFC 4506: numbers are big-endian, everything is
filled up with zero bytes to a multiple of four, counts and lengths come first, a present optional
value follows a one, and a value of several kinds follows the number of its kind.

Owns:
- `Codec` and the codecs of the primitives;
- the ways to put codecs together: `pair`, `convert`, `refine`, `optional`, `array`, `union`;
- whole-input decoding from bytes and from base 64 text.

Does not own: the layout of any domain value; each stands with its type.
-/

namespace LedgerWire

structure FixedBytes (n : Nat) where
  bytes : Bytes
  length_eq : bytes.length = n
  deriving DecidableEq

namespace Wire

/-- A layout: how a value is written and how it is read back. -/
structure Codec (α : Type) where
  write : α → Output
  read : Reader α

inductive Integer where
  | int32
  | uint32
  | int64
  | uint64
  deriving DecidableEq, Repr

namespace Integer

def name : Integer → String
  | .int32 => "int32"
  | .uint32 => "uint32"
  | .int64 => "int64"
  | .uint64 => "uint64"

def width : Integer → Nat
  | .int32 | .uint32 => 4
  | .int64 | .uint64 => 8

def least : Integer → Int
  | .int32 => -2 ^ 31
  | .int64 => -2 ^ 63
  | .uint32 | .uint64 => 0

def greatest : Integer → Int
  | .int32 => 2 ^ 31 - 1
  | .uint32 => 2 ^ 32 - 1
  | .int64 => 2 ^ 63 - 1
  | .uint64 => 2 ^ 64 - 1

/-- Whether a number has a form in the format. -/
def Fits (format : Integer) (n : Int) : Prop :=
  format.least ≤ n ∧ n ≤ format.greatest

instance (format : Integer) (n : Int) : Decidable (format.Fits n) :=
  inferInstanceAs (Decidable (_ ∧ _))

/-- The two's complement bytes of a number. -/
def toBytes (format : Integer) (n : Int) : Bytes :=
  Bytes.ofNatBE format.width (n % 256 ^ format.width).toNat

/-- The number of two's complement bytes. -/
def ofBytes (format : Integer) (bytes : Bytes) : Int :=
  let n : Int := Bytes.toNatBE bytes
  if n ≤ format.greatest then n else n - 256 ^ format.width

end Integer

/-- The number of zero bytes that fill `n` bytes up to a multiple of four. -/
def paddingLength (n : Nat) : Nat := (4 - n % 4) % 4

/-- Bytes with their padding. -/
def padded (bytes : Bytes) : Bytes :=
  bytes ++ List.replicate (paddingLength bytes.length) 0

/-- Takes the padding of `n` bytes, which must be zero. -/
def skipPadding (n : Nat) : Reader Unit := do
  let padding ← Reader.take (paddingLength n)
  if padding.all (· == 0) then pure () else Reader.malformed "non-zero padding bytes"

/-- The limit that a count exceeds, if there is a limit and it does. -/
def exceeded? (limit? : Option Int) (count : Int) : Option Int :=
  limit?.filter (· < count)

namespace Codec

variable {α β γ : Type}

/-! ### Primitives -/

/-- A number of the given format; one that does not fit cannot be written. -/
def integer (format : Integer) : Codec Int where
  write n :=
    if format.Fits n then Output.done (format.toBytes n)
    else Output.failed (Failure.xdr s!"{format.name} value out of range: {n}")
  read := do return format.ofBytes (← Reader.take format.width)

def int32 : Codec Int := integer .int32

def uint32 : Codec Int := integer .uint32

def int64 : Codec Int := integer .int64

def uint64 : Codec Int := integer .uint64

/-- A truth value: one or zero. -/
def bool : Codec Bool where
  write flag := uint32.write (if flag then 1 else 0)
  read := do
    let n ← uint32.read
    if n = 0 then pure false
    else if n = 1 then pure true
    else Reader.malformed s!"invalid bool value: {n}"

/-- A byte string whose length both sides know. -/
def bytesExactly (n : Int) : Codec Bytes where
  write bytes :=
    if bytes.length = n then Output.done (padded bytes)
    else Output.failed (Failure.xdr s!"fixed opaque must be {n} bytes, got {bytes.length}")
  read := do
    let bytes ← Reader.take n
    skipPadding bytes.length
    return bytes

/-- A byte string after its length, which has a limit if one is given. -/
def bytes (limit? : Option Int) : Codec Bytes where
  write bytes :=
    match exceeded? limit? bytes.length with
    | some limit => Output.failed (Failure.xdr s!"opaque longer than {limit} bytes: {bytes.length}")
    | none => uint32.write bytes.length ++ Output.done (padded bytes)
  read := do
    let n ← uint32.read
    match exceeded? limit? n with
    | some limit => Reader.malformed s!"opaque longer than {limit} bytes: {n}"
    | none => (bytesExactly n).read

/-- A text as its UTF-8 bytes; the limit counts bytes. -/
def text (limit? : Option Int) : Codec String where
  write value := (bytes limit?).write (Text.Utf8.encode value)
  read := do
    match Text.Utf8.decode (← (bytes limit?).read) with
    | .ok value => pure value
    | .error fault => throw (Failure.xdrBecause "string is not valid utf-8" fault.message)

/-! ### Composition -/

def nothing : Codec Unit where
  write _ := Output.done []
  read := pure ()

/-- Two values, one after the other. -/
def pair (first : Codec α) (second : Codec β) : Codec (α × β) where
  write value := first.write value.1 ++ second.write value.2
  read := do
    let left ← first.read
    let right ← second.read
    return (left, right)

/-- The same layout for another type, by a conversion there and back. -/
def convert (codec : Codec α) (build : α → β) (view : β → α) : Codec β where
  write value := codec.write (view value)
  read := do return build (← codec.read)

/-- The same layout for a type whose values are the accepted ones. -/
def refine (codec : Codec α) (check : α → Except Failure β) (view : β → α) : Codec β where
  write value := codec.write (view value)
  read := do Reader.ofExcept (check (← codec.read))

/-- A value that may be absent. -/
def optional (codec : Codec α) : Codec (Option α) where
  write
    | none => bool.write false
    | some value => bool.write true ++ codec.write value
  read := do
    if ← bool.read then return some (← codec.read) else return none

def writeAll (codec : Codec α) (items : List α) : Output :=
  Output.concat (items.map codec.write)

/-- Values after their count, which has a limit if one is given. A count that the bytes to come
cannot hold is refused at once, on the ground that no element takes less than four. -/
def array (codec : Codec α) (limit? : Option Int) : Codec (List α) where
  write items :=
    match exceeded? limit? items.length with
    | some limit => Output.failed (Failure.xdr s!"array longer than {limit} items: {items.length}")
    | none => uint32.write items.length ++ codec.writeAll items
  read := do
    let n ← uint32.read
    match exceeded? limit? n with
    | some limit => Reader.malformed s!"array longer than {limit} items: {n}"
    | none =>
      let cursor ← get
      if (cursor.remaining : Int) < n * 4 then
        Reader.malformed s!"array count {n} exceeds remaining data"
      else
        Reader.times codec.read n.toNat

/-- One kind of a type of several kinds. Values of other kinds have no form in it. -/
def arm (codec : Codec α) (build : α → β) (view? : β → Option α) : Codec β where
  write value :=
    match view? value with
    | some content => codec.write content
    | none => Output.failed (Failure.xdr "value of another kind")
  read := do return build (← codec.read)

/-- A value after the number of its kind. `arms` gives the layout of each kind there is, and
`unknown` is the account of a number that is none. -/
def union
    (tag : Codec γ)
    (tagOf : β → γ)
    (arms : γ → Option (Codec β))
    (unknown : γ → Failure) : Codec β where
  write value :=
    tag.write (tagOf value) ++
      match arms (tagOf value) with
      | some codec => codec.write value
      | none => Output.failed (unknown (tagOf value))
  read := do
    let kind ← tag.read
    match arms kind with
    | some codec => codec.read
    | none => throw (unknown kind)

/-- A number that must be zero, kept for later extensions; `unknown` is the account of another. -/
def reserved (unknown : Int → Failure) : Codec Unit :=
  int32.refine (fun n => if n = 0 then .ok () else .error (unknown n)) (fun _ => 0)

def fixedBytes (n : Nat) : Codec (FixedBytes n) :=
  (bytesExactly n).refine
    (fun bytes =>
      if h : bytes.length = n then .ok ⟨bytes, h⟩
      else .error (Failure.xdr s!"fixed opaque must be {n} bytes, got {bytes.length}"))
    (·.bytes)

/-! ### Whole inputs -/

def encode (codec : Codec α) (value : α) : Except Failure Bytes :=
  (codec.write value).toExcept

/-- The value of a byte string, all of which must be used. -/
def decode (codec : Codec α) (input : Bytes) : Except Failure α :=
  codec.read.readAll input

def encodeBase64 (codec : Codec α) (value : α) : Except Failure String :=
  (codec.encode value).map Base64.encode

end Codec

/-- The bytes of a base 64 text, with a refusal as a documented fault. -/
def bytesOfBase64 (text : String) : Except Failure Bytes :=
  match Base64.decode text with
  | .ok bytes => .ok bytes
  | .error fault => .error (Failure.because .base64 fault.message)

def Codec.decodeBase64 {α : Type} (codec : Codec α) (text : String) : Except Failure α := do
  codec.decode (← bytesOfBase64 text)

end Wire

end LedgerWire
