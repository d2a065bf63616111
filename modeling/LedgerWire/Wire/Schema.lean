import LedgerWire.Wire.Codec

/-!
Contract: the wire format driven step by step by data instead of by a type: a layout is a value, and
so is a request to write.

Owns:
- `Schema`, a layout, with the reader of its values;
- `Request`, one thing to write, which may be a value that no layout admits, or be stated so that no
  value can be made of it.

Does not own: the primitives themselves.
-/

namespace LedgerWire.Wire

inductive Schema where
  | integer (format : Integer)
  | bool
  | bytesExactly (length : Int)
  | bytes (limit? : Option Int)
  | text (limit? : Option Int)
  | optional (content : Schema)
  | array (element : Schema) (limit? : Option Int)
  /-- Several layouts, one after the other. -/
  | sequence (parts : List Schema)

/-- A value that was read by a layout. -/
inductive Item where
  | integer (value : Int)
  | bool (value : Bool)
  | bytes (value : Bytes)
  | text (value : String)
  | absent
  | present (content : Item)
  | array (elements : List Item)
  | sequence (parts : List Item)

mutual

def Schema.read : Schema → Reader Item
  | .integer format => .integer <$> (Codec.integer format).read
  | .bool => .bool <$> Codec.bool.read
  | .bytesExactly length => .bytes <$> (Codec.bytesExactly length).read
  | .bytes limit? => .bytes <$> (Codec.bytes limit?).read
  | .text limit? => .text <$> (Codec.text limit?).read
  | .optional content => do
    if ← Codec.bool.read then return .present (← content.read) else return .absent
  | .array element limit? =>
    .array <$> (Codec.array ⟨fun _ => Output.done [], element.read⟩ limit?).read
  | .sequence parts => .sequence <$> Schema.readAll parts

/-- Reads by each layout in order. -/
def Schema.readAll : List Schema → Reader (List Item)
  | [] => return []
  | first :: rest => do return (← first.read) :: (← Schema.readAll rest)

end

/-- A request to write. The elements of an array need not have the same layout. -/
inductive Request where
  | integer (format : Integer) (value : Int)
  | foreignInteger (format : Integer) (value : ForeignValue)
  | bool (value : Bool)
  | bytesExactly (value : Bytes) (length : Int)
  | bytes (value : Bytes) (limit? : Option Int)
  | text (value : String) (limit? : Option Int)
  | absent
  | present (content : Request)
  | array (elements : List Request) (limit? : Option Int)
  | sequence (parts : List Request)
  /-- What is stated makes no value. That counts only in its turn: what stands before it is
  written. -/
  | malformed (failure : Failure)

mutual

def Request.write : Request → Output
  | .integer format value => (Codec.integer format).write value
  | .foreignInteger format value =>
    Output.failed (Failure.xdr s!"{format.name} value must be an int, got {value.name}")
  | .bool value => Codec.bool.write value
  | .bytesExactly value length => (Codec.bytesExactly length).write value
  | .bytes value limit? => (Codec.bytes limit?).write value
  | .text value limit? => (Codec.text limit?).write value
  | .absent => Codec.bool.write false
  | .present content => Codec.bool.write true ++ content.write
  | .array elements limit? =>
    match exceeded? limit? elements.length with
    | some limit =>
      Output.failed (Failure.xdr s!"array longer than {limit} items: {elements.length}")
    | none => Codec.uint32.write elements.length ++ Request.writeAll elements
  | .sequence parts => Request.writeAll parts
  | .malformed failure => Output.failed failure

/-- Writes what is requested, in order, up to the first failure. -/
def Request.writeAll : List Request → Output
  | [] => Output.done []
  | first :: rest => first.write ++ Request.writeAll rest

end

end LedgerWire.Wire
