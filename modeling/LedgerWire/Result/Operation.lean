import LedgerWire.Claim.Balance
import LedgerWire.Result.Code
import LedgerWire.Result.Exchange

/-!
Contract: what became of an operation: that it was not applied, or the code of its kind. With some
codes comes more: what a path payment or an offer did, the asset whose issuer is missing, the
balance that was merged, what inflation paid out, the id of a new balance.

A payload here is of one of these six shapes, though not always of the one that its code asks for.
Objects of any other shape, which a caller may put in their place, are left out: no code asks for
them, so they are never read.

Owns:
- `Payload`, the table of which codes have one, and `AppliedResult`;
- `OperationResult`, with the wire forms of both.

Does not own: the numbers and names of codes.
-/

namespace LedgerWire

open Wire

/-- A share in what inflation paid out. -/
structure InflationPayout where
  destination : PublicKey
  amount : Stroops
  deriving DecidableEq

def InflationPayout.codec : Codec InflationPayout :=
  (PublicKey.codec.pair Stroops.codec).convert
    (fun parts => ⟨parts.1, parts.2⟩)
    (fun payout => (payout.destination, payout.amount))

/-- What may come with a code. -/
inductive Payload where
  | path (success : PathPaymentSuccess)
  | asset (missing : Asset)
  | offer (success : ManageOfferSuccess)
  | balance (merged : Stroops)
  | payouts (items : List InflationPayout)
  | claimable (id : ClaimableBalanceId)
  deriving DecidableEq

namespace Payload

inductive Shape where
  | path
  | asset
  | offer
  | balance
  | payouts
  | claimable
  deriving DecidableEq, Repr

def shape : Payload → Shape
  | .path _ => .path
  | .asset _ => .asset
  | .offer _ => .offer
  | .balance _ => .balance
  | .payouts _ => .payouts
  | .claimable _ => .claimable

/-- The kind of payload that comes with a code, if one does. -/
def shapeFor? (kind : OperationKind) (code : Int) : Option Shape :=
  match kind, code with
  | .pathPaymentStrictReceive, 0 | .pathPaymentStrictSend, 0 => some .path
  | .pathPaymentStrictReceive, -9 | .pathPaymentStrictSend, -9 => some .asset
  | .manageSellOffer, 0 | .createPassiveSellOffer, 0 | .manageBuyOffer, 0 => some .offer
  | .accountMerge, 0 => some .balance
  | .inflation, 0 => some .payouts
  | .createClaimableBalance, 0 => some .claimable
  | _, _ => none

/-- The reading of a payload of a kind. -/
def read : Shape → Reader Payload
  | .path => return .path (← PathPaymentSuccess.codec.read)
  | .asset => return .asset (← Asset.codec.read)
  | .offer => return .offer (← ManageOfferSuccess.codec.read)
  | .balance => return .balance (← Stroops.codec.read)
  | .payouts => return .payouts (← (InflationPayout.codec.array none).read)
  | .claimable => return .claimable (← ClaimableBalanceId.codec.read)

/-- The writing of a payload where one of a kind is due. Payloads that are single values are written
as they are, also where another of them is due; a merged balance and payouts have forms of their
own. -/
def write : Shape → Payload → Output
  | .balance, .balance merged => Stroops.codec.write merged
  | .payouts, .payouts items => (InflationPayout.codec.array none).write items
  | .balance, _ => Output.failed .foreignPayload
  | .payouts, _ => Output.failed .wrongType
  | _, .path success => PathPaymentSuccess.codec.write success
  | _, .asset missing => Asset.codec.write missing
  | _, .offer success => ManageOfferSuccess.codec.write success
  | _, .claimable id => ClaimableBalanceId.codec.write id
  | _, _ => Output.failed .foreignPayload

end Payload

/-- The result of an operation that was applied: a code of its kind, and a payload exactly if one
comes with the code. -/
structure AppliedResult where
  kind : OperationKind
  code : Int
  payload : Option Payload
  known : (kind.resultName? code).isSome
  payload_iff : (Payload.shapeFor? kind code).isSome = payload.isSome
  deriving DecidableEq

namespace AppliedResult

def codeName (result : AppliedResult) : String :=
  (result.kind.resultName? result.code).get result.known

/-- Whether the operation did what it was to do. -/
def succeeded (result : AppliedResult) : Bool := result.code == 0

def make (kind : OperationKind) (code : Int) (payload : Option Payload) :
    Except Failure AppliedResult :=
  if known : (kind.resultName? code).isSome then
    if h : (Payload.shapeFor? kind code).isSome = payload.isSome then
      .ok ⟨kind, code, payload, known, h⟩
    else
      let name := (kind.resultName? code).get known
      let verb := if (Payload.shapeFor? kind code).isSome then "needs" else "has no"
      .error (Failure.xdr s!"{kind.name} result {name} {verb} payload")
  else
    .error (Failure.xdrBecause s!"unknown {kind.name} result code: {code}"
      s!"{code} is not a valid {kind.resultTableName}")

/-- The writing of a result: kind, code, and what comes with it. -/
def write (result : AppliedResult) : Output :=
  Codec.int32.write result.kind.number ++
    (Codec.int32.write result.code ++
      match Payload.shapeFor? result.kind result.code, result.payload with
      | some shape, some payload => payload.write shape
      | _, _ => Output.done [])

/-- The reading of a result. What comes with a code is read before anything is checked. -/
def read : Reader AppliedResult := do
  let number ← Codec.int32.read
  match OperationKind.ofNumber? number with
  | none =>
    throw (Failure.xdrBecause s!"unknown operation type: {number}"
      s!"{number} is not a valid OperationType")
  | some kind =>
    let code ← Codec.int32.read
    match Payload.shapeFor? kind code with
    | none => Reader.ofExcept (make kind code none)
    | some shape =>
      let payload ← Payload.read shape
      Reader.ofExcept (make kind code (some payload))

def codec : Codec AppliedResult where
  write := write
  read := read

end AppliedResult

/-- What became of an operation. -/
inductive OperationResult where
  | applied (result : AppliedResult)
  | refused (code : OperationResultCode) (h : code ≠ .inner)
  deriving DecidableEq

namespace OperationResult

def code : OperationResult → OperationResultCode
  | .applied _ => .inner
  | .refused code _ => code

def inner? : OperationResult → Option AppliedResult
  | .applied result => some result
  | .refused _ _ => none

def succeeded (result : OperationResult) : Bool := result.inner?.any AppliedResult.succeeded

def make (code : OperationResultCode) (inner : Option AppliedResult) :
    Except Failure OperationResult :=
  match inner with
  | some result =>
    if code = .inner then .ok (.applied result) else .error (mismatch code)
  | none =>
    if h : code ≠ .inner then .ok (.refused code h) else .error (mismatch code)
where
  /-- The failure of a code that does not go with the presence or absence of a result. -/
  mismatch (code : OperationResultCode) : Failure :=
    Failure.xdr s!"operation result {code.name} does not match inner result"

def kinds (number : Int) : Option (Codec OperationResult) :=
  (OperationResultCode.ofNumber? number).map fun code =>
    if h : code ≠ .inner then
      Codec.nothing.arm (fun _ => .refused code h) fun | .refused _ _ => some () | _ => none
    else
      AppliedResult.codec.arm .applied inner?

def codec : Codec OperationResult :=
  Codec.union Codec.int32 (·.code.number) kinds
    (fun number => Failure.xdrBecause s!"unknown operation result code: {number}"
      s!"{number} is not a valid OperationResultCode")

end OperationResult

end LedgerWire
