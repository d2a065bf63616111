import LedgerWire.Amount
import LedgerWire.Transaction.Basic

/-!
Contract: transactions as objects that several holders share. Signatures are added in place, so
every holder of a transaction sees them; a fee bump refers to the transaction it pays for, and an
envelope to its content. An envelope made of a transaction holds a copy of it; one made of a fee
bump copies the fee bump, but the copy refers to the same inner transaction.

Owns:
- `Store` and `Ref`, and the reading, adding, copying and signing of objects.

Does not own: what the objects are made of.
-/

namespace LedgerWire

/-- A fee bump as it is kept: the inner transaction by reference. -/
structure FeeBumpCell where
  feeSource : MuxedAccount
  fee : Stroops
  inner : Nat
  signatures : List DecoratedSignature
  deriving DecidableEq

structure Store where
  transactions : List (Signed Transaction)
  feeBumps : List FeeBumpCell
  deriving DecidableEq

inductive Ref where
  | transaction (index : Nat)
  | feeBump (index : Nat)
  deriving DecidableEq, Repr

namespace Store

def empty : Store := ⟨[], []⟩

/-! ### Reading -/

def transaction? (store : Store) (index : Nat) : Option (Signed Transaction) :=
  store.transactions[index]?

/-- The fee bump at an index, with the inner transaction as it is now. -/
def feeBump? (store : Store) (index : Nat) : Option (Signed FeeBump) := do
  let cell ← store.feeBumps[index]?
  let inner ← store.transaction? cell.inner
  return ⟨⟨cell.feeSource, cell.fee, inner⟩, cell.signatures⟩

/-- The envelope around an object as it is now. -/
def envelope? (store : Store) : Ref → Option Envelope
  | .transaction index => (store.transaction? index).map Envelope.ofTransaction
  | .feeBump index => (store.feeBump? index).map Envelope.ofFeeBump

/-- The transaction that a fee bump refers to. -/
def inner? (store : Store) : Ref → Option Ref
  | .transaction _ => none
  | .feeBump index => (store.feeBumps[index]?).map fun cell => .transaction cell.inner

/-! ### Adding -/

def addTransaction (store : Store) (signed : Signed Transaction) : Store × Ref :=
  ({ store with transactions := store.transactions ++ [signed] },
    .transaction store.transactions.length)

/-- A new fee bump that refers to a transaction there is. -/
def addCell (store : Store) (cell : FeeBumpCell) : Store × Ref :=
  ({ store with feeBumps := store.feeBumps ++ [cell] }, .feeBump store.feeBumps.length)

/-- A new fee bump together with a new inner transaction. -/
def addFeeBump (store : Store) (signed : Signed FeeBump) : Store × Ref :=
  let (store, _) := store.addTransaction signed.content.inner
  store.addCell {
    feeSource := signed.content.feeSource
    fee := signed.content.fee
    inner := store.transactions.length - 1
    signatures := signed.signatures }

/-- New objects for an envelope. -/
def addEnvelope (store : Store) (envelope : Envelope) : Store × Ref :=
  match envelope.content with
  | .transaction content => store.addTransaction ⟨content, envelope.signatures⟩
  | .feeBump content => store.addFeeBump ⟨content, envelope.signatures⟩

/-- A new fee bump for the transaction at an index, of what a caller gives for source and fee. The
fee is looked at before the source. -/
def wrap (store : Store) (feeSource : AccountSource) (fee : StroopsSource) (inner : Nat) :
    Option (Except Failure (Store × Ref)) := do
  let signed ← store.transaction? inner
  return do
    let fee ← fee.toStroops
    FeeBump.checkFee fee signed.content.operations.length
    let feeSource ← feeSource.toAccount
    return store.addCell ⟨feeSource, fee, inner, []⟩

/-- The object that an envelope of an object refers to. -/
def snapshot (store : Store) : Ref → Option (Store × Ref)
  | .transaction index => (store.transaction? index).map store.addTransaction
  | .feeBump index => (store.feeBumps[index]?).map store.addCell

/-! ### Signing -/

/-- The store after signatures were added to an object. -/
def append (store : Store) (ref : Ref) (signatures : List DecoratedSignature) : Store :=
  match ref with
  | .transaction index =>
    { store with transactions := store.transactions.modify index (·.append signatures) }
  | .feeBump index =>
    { store with
      feeBumps := store.feeBumps.modify index fun cell =>
        { cell with signatures := cell.signatures ++ signatures } }

/-- The store after an object was signed, where there is such an object. -/
def sign (store : Store) (ref : Ref) (key : SecretKey) (network : Network) :
    Option (Except Failure Store) := do
  let envelope ← store.envelope? ref
  return do
    let signature ← envelope.content.sign key network
    return store.append ref [signature]

end Store

end LedgerWire
