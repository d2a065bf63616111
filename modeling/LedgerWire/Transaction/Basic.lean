import LedgerWire.Keys.KeyPair
import LedgerWire.Memo
import LedgerWire.Operation.Basic
import LedgerWire.TimeBounds

/-!
Contract: transactions, fee bumps that pay for a signed transaction, and envelopes: either of the
two with its signatures. What is signed is the hash of the network's id followed by the number of
the kind and the content, so no signature says anything of another network, kind or content, and
signatures say nothing of each other.

Owns:
- `Transaction`, `FeeBump`, `Signed` and `Envelope` with their wire forms;
- `TaggedTransaction`, what is signed, its hash and the signing of it.

Does not own: how transactions are put together, and which of them share signatures.
-/

namespace LedgerWire

open Wire

/-- A content with signatures, in the order in which they were added. -/
structure Signed (α : Type) where
  content : α
  signatures : List DecoratedSignature
  deriving DecidableEq

namespace Signed

def maxSignatures : Nat := 20

def unsigned {α : Type} (content : α) : Signed α := ⟨content, []⟩

def append {α : Type} (signed : Signed α) (signatures : List DecoratedSignature) : Signed α :=
  { signed with signatures := signed.signatures ++ signatures }

def codec {α : Type} (content : Codec α) : Codec (Signed α) :=
  (content.pair (DecoratedSignature.codec.array (some maxSignatures))).convert
    (fun parts => ⟨parts.1, parts.2⟩)
    (fun signed => (signed.content, signed.signatures))

def bareCodec {α : Type} (content : Codec α) : Codec (Signed α) :=
  content.convert unsigned (·.content)

end Signed

/-- A transaction: who pays, what is done, when, and with which memo. -/
structure Transaction where
  source : MuxedAccount
  sequence : Int
  fee : Stroops
  timeBounds : Option TimeBounds
  memo : Memo
  operations : List Operation
  deriving DecidableEq

namespace Transaction

def maxOperations : Nat := 100

def unknownExtension (version : Int) : Failure :=
  Failure.xdr s!"unsupported extension version: {version}"

/-- The layout of the operations, of which there is at least one. -/
def operationsCodec : Codec (List Operation) :=
  (Operation.codec.array (some maxOperations)).refine
    (fun operations =>
      if operations.isEmpty then .error (Failure.xdr "transaction has no operations")
      else .ok operations)
    id

def codec : Codec Transaction :=
  (MuxedAccount.codec.pair <|
    Stroops.feeCodec.pair <|
    Codec.int64.pair <|
    TimeBounds.codec.optional.pair <|
    Memo.codec.pair <|
    operationsCodec.pair (Codec.reserved unknownExtension)).convert
    (fun (source, fee, sequence, timeBounds, memo, operations, _) =>
      ⟨source, sequence, fee, timeBounds, memo, operations⟩)
    (fun tx => (tx.source, tx.fee, tx.sequence, tx.timeBounds, tx.memo, tx.operations, ()))

/-- Whether two lists of operations are the same, one by one. -/
def sameOperationsBy (times : TimeRelation) : List Operation → List Operation → Bool
  | [], [] => true
  | a :: as, b :: bs => a.sameBy times b && sameOperationsBy times as bs
  | _, _ => false

def sameTimeBoundsBy (times : TimeRelation) : Option TimeBounds → Option TimeBounds → Bool
  | none, none => true
  | some a, some b => a.sameBy times b
  | _, _ => false

/-- Whether two transactions are the same, times compared in a given way. -/
def sameBy (times : TimeRelation) (a b : Transaction) : Bool :=
  a.source == b.source && a.sequence == b.sequence && a.fee == b.fee &&
    sameOperationsBy times a.operations b.operations && a.memo == b.memo &&
    sameTimeBoundsBy times a.timeBounds b.timeBounds

def describe (signed : Signed Transaction) : String :=
  let tx := signed.content
  s!"Transaction(source_account={tx.source.describe}, sequence={tx.sequence}, " ++
    s!"fee={tx.fee.describe}, operations={tx.operations.length}, " ++
    s!"signatures={signed.signatures.length})"

end Transaction

def Transaction.sameSignedBy (times : TimeRelation) (a b : Signed Transaction) : Bool :=
  a.content.sameBy times b.content && a.signatures == b.signatures

def Transaction.sameSigned (a b : Signed Transaction) : Bool := sameSignedBy Moment.sameIfAny a b

/-- The payment of a higher fee for a signed transaction. -/
structure FeeBump where
  feeSource : MuxedAccount
  fee : Stroops
  inner : Signed Transaction
  deriving DecidableEq

namespace FeeBump

/-- The least fee for a transaction of a number of operations: the fee bump counts as one more. -/
def leastFee (operations : Nat) : Int := Stroops.leastBaseFee * (operations + 1)

/-- Fails if a fee is too low for a transaction of a number of operations. -/
def checkFee (fee : Stroops) (operations : Nat) : Except Failure Unit :=
  if fee.value < leastFee operations then
    .error (.fault (Fault.of .feeTooLow ""
      [("fee", .number fee.value), ("min_fee", .number (leastFee operations))] none))
  else
    .ok ()

def make (feeSource : MuxedAccount) (fee : Stroops) (inner : Signed Transaction) :
    Except Failure FeeBump := do
  checkFee fee inner.content.operations.length
  return ⟨feeSource, fee, inner⟩

/-- The layout of the inner transaction: the number of its kind, and then itself with signatures. -/
def innerCodec : Codec (Signed Transaction) :=
  Codec.union Codec.int32 (fun _ => 2)
    (fun kind => if kind = 2 then some (Signed.codec Transaction.codec) else none)
    (fun kind => Failure.xdr s!"unsupported fee bump inner transaction type: {kind}")

def codec : Codec FeeBump :=
  (MuxedAccount.codec.pair <|
    Stroops.codec.pair <|
    innerCodec.pair (Codec.reserved Transaction.unknownExtension)).refine
    (fun (feeSource, fee, inner, _) => make feeSource fee inner)
    (fun bump => (bump.feeSource, bump.fee, bump.inner, ()))

def sameBy (times : TimeRelation) (a b : FeeBump) : Bool :=
  a.feeSource == b.feeSource && a.fee == b.fee && Transaction.sameSignedBy times a.inner b.inner

def describe (signed : Signed FeeBump) : String :=
  let bump := signed.content
  s!"FeeBumpTransaction(fee_source={bump.feeSource.describe}, fee={bump.fee.describe}, " ++
    s!"inner={Transaction.describe bump.inner}, signatures={signed.signatures.length})"

end FeeBump

def FeeBump.sameSigned (a b : Signed FeeBump) : Bool :=
  a.content.sameBy Moment.sameIfAny b.content && a.signatures == b.signatures

/-- What is signed: a transaction or a fee bump. -/
inductive TaggedTransaction where
  | transaction (content : Transaction)
  | feeBump (content : FeeBump)
  deriving DecidableEq

namespace TaggedTransaction

def kindNumber : TaggedTransaction → Int
  | .transaction _ => 2
  | .feeBump _ => 5

def transaction? : TaggedTransaction → Option Transaction
  | .transaction content => some content
  | .feeBump _ => none

def feeBump? : TaggedTransaction → Option FeeBump
  | .transaction _ => none
  | .feeBump content => some content

def kinds (kind : Int) : Option (Codec TaggedTransaction) :=
  if kind = 2 then some (Transaction.codec.arm .transaction transaction?)
  else if kind = 5 then some (FeeBump.codec.arm .feeBump feeBump?)
  else none

/-- The account of a number that is no kind, or that of a layout given up long ago. -/
def unknownKind (kind : Int) : Failure :=
  if kind = 0 then Failure.xdr "legacy v0 transaction envelopes are not supported"
  else Failure.xdr s!"unknown envelope type: {kind}"

def codec : Codec TaggedTransaction :=
  Codec.union Codec.int32 kindNumber kinds unknownKind

/-- Whether two contents are the same, times compared in a given way. -/
def sameBy (times : TimeRelation) : TaggedTransaction → TaggedTransaction → Bool
  | .transaction a, .transaction b => a.sameBy times b
  | .feeBump a, .feeBump b => a.sameBy times b
  | _, _ => false

def same (a b : TaggedTransaction) : Bool := a.sameBy Moment.sameIfAny b

/-- The bytes whose hash is signed: the id of the network, then the content. -/
def signatureData (content : TaggedTransaction) (network : Network) : Except Failure Bytes :=
  ((Codec.fixedBytes 32).pair codec).encode (network.id, content)

def hash (content : TaggedTransaction) (network : Network) : Except Failure (FixedBytes 32) := do
  return ⟨sha256 (← content.signatureData network), length_sha256 _⟩

def sign (content : TaggedTransaction) (key : SecretKey) (network : Network) :
    Except Failure DecoratedSignature := do
  return key.signDecorated (← content.hash network).bytes

end TaggedTransaction

/-- What is transmitted: a transaction or a fee bump with its signatures. -/
abbrev Envelope := Signed TaggedTransaction

namespace Envelope

def ofTransaction (signed : Signed Transaction) : Envelope :=
  ⟨.transaction signed.content, signed.signatures⟩

def ofFeeBump (signed : Signed FeeBump) : Envelope :=
  ⟨.feeBump signed.content, signed.signatures⟩

def transaction? (envelope : Envelope) : Option (Signed Transaction) :=
  envelope.content.transaction?.map (⟨·, envelope.signatures⟩)

def feeBump? (envelope : Envelope) : Option (Signed FeeBump) :=
  envelope.content.feeBump?.map (⟨·, envelope.signatures⟩)

def codec : Codec Envelope := Signed.codec TaggedTransaction.codec

/-- Whether two envelopes are the same, times compared in a given way. -/
def sameBy (times : TimeRelation) (a b : Envelope) : Bool :=
  a.content.sameBy times b.content && a.signatures == b.signatures

def same (a b : Envelope) : Bool := a.sameBy Moment.sameIfAny b

def describe (envelope : Envelope) : String :=
  let shown :=
    match envelope.content with
    | .transaction content => Transaction.describe ⟨content, envelope.signatures⟩
    | .feeBump content => FeeBump.describe ⟨content, envelope.signatures⟩
  s!"TransactionEnvelope({shown})"

end Envelope

end LedgerWire
