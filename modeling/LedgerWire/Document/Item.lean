import LedgerWire.Document
import LedgerWire.Wire.Schema

/-!
Contract: the documents of values that were read by a layout. Bytes are plain hexadecimal text, and
a value that may be absent is itself where it is there.

Owns:
- the documents of items.

Does not own: the reading.
-/

namespace LedgerWire

open Wire

def Wire.Item.toDocument : Item → Document
  | .integer value => document value
  | .bool value => document value
  | .bytes value => document value.toHex
  | .text value => document value
  | .absent => .absent
  | .present content => content.toDocument
  | .array elements | .sequence elements => .list (elements.map Item.toDocument)

instance : Documented Item := ⟨Item.toDocument⟩

end LedgerWire
