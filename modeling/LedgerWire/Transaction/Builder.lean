import LedgerWire.Amount
import LedgerWire.Transaction.Basic
import LedgerWire.TransactionOptions

/-!
Contract: putting a transaction together. The first fault is kept and reported when the transaction
is built, and from then on operations are dropped; the transaction is built once, and its fee is the
base fee for each operation.

Owns:
- `TransactionBuilder`, the calls on it and what each does.

Does not own: operations and how they are built.
-/

namespace LedgerWire

/-- A transaction in the making. -/
structure TransactionBuilder where
  source : MuxedAccount
  sequence : Int
  baseFee : Stroops
  timeBounds : Option TimeBounds
  memo : Memo
  operations : List Operation
  fault : Option Failure
  consumed : Bool

/-- A step in the making of a transaction: a failure keeps what was done before it. -/
abbrev Assembling := EStateM Failure TransactionBuilder

namespace TransactionBuilder

def feeTooLow (baseFee : Stroops) : Failure :=
  .fault (Fault.of .feeTooLow ""
    [("base_fee", .number baseFee.value), ("min_base_fee", .number Stroops.leastBaseFee)] none)

def tooManyOperations : Failure :=
  Failure.withDetail .tooManyOperations "max_operations" (.number Transaction.maxOperations)

def feeOverflow (baseFee : Stroops) (operations : Nat) : Failure :=
  .fault (Fault.of .feeOverflow ""
    [("base_fee", .number baseFee.value), ("operations", .number operations)] none)

/-- A builder with no operation and no memo. A base fee that is too low is a fault to report
later. -/
def start (source : MuxedAccount) (sequence : Int) (baseFee : Stroops) : TransactionBuilder where
  source := source
  sequence := sequence
  baseFee := baseFee
  timeBounds := none
  memo := .absent
  operations := []
  fault := if baseFee.value < Stroops.leastBaseFee then some (feeTooLow baseFee) else none
  consumed := false

/-- A builder of what a caller gives for source and fee. -/
def new (source : AccountSource) (sequence : Int) (baseFee : StroopsSource) :
    Except Failure TransactionBuilder := do
  let source ← source.toAccount
  let baseFee ← baseFee.toStroops
  return start source sequence baseFee

/-- A builder with fee, validity and memo of a caller's settings. -/
def ofOptions
    (source : AccountSource)
    (sequence : Int)
    (options : TransactionOptions)
    (now : DateTime) : Except Failure TransactionBuilder := do
  let baseFee ← options.stroops
  let source ← source.toAccount
  let timeBounds ← options.timeBounds now
  let memo ← options.memo
  return { start source sequence baseFee with timeBounds := timeBounds, memo := memo }

/-- A call on a builder, other than to build. -/
inductive Entry where
  | setMemo (memo : Memo)
  | setTimeBounds (bounds : TimeBounds)
  | addOperation (operation : Operation)

/-- The builder with one more operation, unless a fault was noted or there is no room. -/
def add (builder : TransactionBuilder) (operation : Operation) : TransactionBuilder :=
  match builder.fault with
  | some _ => builder
  | none =>
    if builder.operations.length < Transaction.maxOperations then
      { builder with operations := builder.operations ++ [operation] }
    else
      { builder with fault := some tooManyOperations }

def checkUnused : Assembling Unit := do
  if (← get).consumed then throw (Failure.plain .builderConsumed)

def enter (entry : Entry) : Assembling Unit := do
  checkUnused
  modify fun builder =>
    match entry with
    | .setMemo memo => { builder with memo := memo }
    | .setTimeBounds bounds => { builder with timeBounds := some bounds }
    | .addOperation operation => builder.add operation

/-- The total fee, which is an unsigned 32-bit number. -/
def totalFee (builder : TransactionBuilder) : Except Failure Stroops :=
  let overflow := feeOverflow builder.baseFee builder.operations.length
  match Stroops.ofInt? (builder.baseFee.value * builder.operations.length) with
  | none => .error overflow
  | some fee =>
    if fee.value ≤ Wire.Integer.uint32.greatest then .ok fee else .error overflow

/-- The transaction of a builder, unless a fault was noted, there is no operation, or the fee does
not fit, in this order. -/
def toTransaction (builder : TransactionBuilder) : Except Failure Transaction :=
  match builder.fault with
  | some fault => .error fault
  | none =>
    if builder.operations.isEmpty then
      .error (Failure.plain .missingOperations)
    else do
      let fee ← builder.totalFee
      return {
        source := builder.source
        sequence := builder.sequence
        fee := fee
        timeBounds := builder.timeBounds
        memo := builder.memo
        operations := builder.operations }

/-- Builds the transaction, without signatures. The builder is used up, also if there is none. -/
def build : Assembling (Signed Transaction) := do
  checkUnused
  let builder ← get
  set { builder with consumed := true }
  match builder.toTransaction with
  | .ok tx => return Signed.unsigned tx
  | .error failure => throw failure

end TransactionBuilder

end LedgerWire
