import LedgerWire.Wire.Codec

/-!
Contract: values as documents, for tools that show, store or compare them without knowing their
types. Whole numbers are spelled as decimal texts, since many tools would round them; numbers proper
are only codes, which are small.

Owns:
- `Document` and the class `Documented` of the types whose values have one;
- the documents of plain texts, numbers, truth values, optional values, lists and byte strings.

Does not own: which parts of a domain value its document names.
-/

namespace LedgerWire

/-- A tree of texts, lists and records. -/
inductive Document where
  | absent
  | flag (value : Bool)
  | number (value : Int)
  | text (value : String)
  | list (elements : List Document)
  | record (fields : List (String × Document))

class Documented (α : Type) where
  document : α → Document

export Documented (document)

namespace Document

/-- A part of a record: a name and the document of a value. -/
def part {α : Type} [Documented α] (name : String) (value : α) : String × Document :=
  (name, document value)

/-- The document of a byte string: a record of its hexadecimal digits. -/
def ofBytes (bytes : Bytes) : Document := .record [("hex", .text bytes.toHex)]

end Document

instance : Documented Document := ⟨id⟩

instance : Documented String := ⟨.text⟩

instance : Documented Bool := ⟨.flag⟩

instance : Documented Int := ⟨fun n => .text (toString n)⟩

instance : Documented Nat := ⟨fun n => .text (toString n)⟩

instance {n : Nat} : Documented (FixedBytes n) := ⟨fun fixed => Document.ofBytes fixed.bytes⟩

instance {α : Type} [Documented α] : Documented (Option α) where
  document
    | none => .absent
    | some value => document value

instance {α : Type} [Documented α] : Documented (List α) :=
  ⟨fun items => .list (items.map document)⟩

end LedgerWire
