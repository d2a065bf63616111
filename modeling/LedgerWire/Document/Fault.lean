import LedgerWire.Document

/-!
Contract: the document of a fault, which a tool can act on: its code, its message, its details if
there are any, and what the failure beneath said if there was one.

Owns:
- the documents of details and faults.

Does not own: the one-line report, which stands with `Fault`.
-/

namespace LedgerWire

instance : Documented Detail where
  document
    | .text value => .text value
    | .number value => .number value
    | .flag value => .flag value
    | .absent => .absent
    | .other shown => .text shown

instance : Documented Fault where
  document fault :=
    let details :=
      if fault.details.isEmpty then []
      else
        [("details", .record (fault.details.map fun detail => Document.part detail.1 detail.2))]
    .record ([("code", .number fault.code.code), Document.part "message" fault.message] ++
      details ++
      (fault.cause.map (Document.part "cause")).toList)

end LedgerWire
