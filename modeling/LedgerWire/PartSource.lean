import LedgerWire.Keys.PublicKey
import LedgerWire.Network

/-!
Contract: what a record takes for a part that is a key or a network: the value itself, or the text
that names it.

Owns:
- `PartSource`, with the readings as a key and as a network and the reasons why there is none.

Does not own: the reading of addresses and passphrases.
-/

namespace LedgerWire

/-- What may be given for a part of a record. -/
inductive PartSource where
  | key (value : PublicKey)
  | network (value : Network)
  | text (value : String)
  | foreign (value : ForeignValue)

namespace PartSource

/-- The reason why something of one type is no value of another. -/
def unfit (given target : String) : String := s!"cannot convert {given} to {target}"

/-- The key that was given, or the reason why it is none. -/
def toKey : PartSource → Except String PublicKey
  | .key value => .ok value
  | .network _ => .error (unfit "Network" "PublicKey")
  | .text value =>
    match PublicKey.ofAccountId value with
    | .ok read => .ok read
    | .error failure => .error s!"invalid account id: {failure.report}"
  | .foreign value => .error (unfit value.name "PublicKey")

/-- The network that was given, or the reason why it is none. -/
def toNetwork : PartSource → Except String Network
  | .key _ => .error (unfit "PublicKey" "Network")
  | .network value => .ok value
  | .text value =>
    match Network.ofPassphrase value with
    | .ok read => .ok read
    | .error failure => .error failure.report
  | .foreign value => .error (unfit value.name "Network")

end PartSource

end LedgerWire
