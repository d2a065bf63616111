import LedgerWire.Operation.Account
import LedgerWire.Operation.Claim
import LedgerWire.Operation.Kind
import LedgerWire.Operation.Offer
import LedgerWire.Operation.Payment
import LedgerWire.Operation.Pool
import LedgerWire.Operation.Sponsorship
import LedgerWire.Operation.Trust

/-!
Contract: operations: what is to be done, and the account in whose name, which is the transaction's
unless the operation states one.

Owns:
- `OperationBody`, one constructor for each kind, and `Operation`;
- their wire forms, also that of the operations of one kind;
- equality of operations up to a way to compare deadlines.

Does not own: the layout of what the kinds carry.
-/

namespace LedgerWire

open Wire

/-- What is to be done. -/
inductive OperationBody where
  | createAccount (body : CreateAccount)
  | payment (body : Payment)
  | pathPaymentStrictReceive (body : PathPayment)
  | manageSellOffer (body : ManageOffer)
  | createPassiveSellOffer (terms : OfferTerms)
  | setOptions (body : SetOptions)
  | changeTrust (body : ChangeTrust)
  | allowTrust (body : AllowTrust)
  | accountMerge (destination : MuxedAccount)
  | inflation
  | manageData (body : ManageData)
  | bumpSequence (bumpTo : Int)
  | manageBuyOffer (body : ManageOffer)
  | pathPaymentStrictSend (body : PathPayment)
  | createClaimableBalance (body : CreateClaimableBalance)
  | claimClaimableBalance (id : ClaimableBalanceId)
  | beginSponsoring (sponsored : PublicKey)
  | endSponsoring
  | revokeSponsorship (target : RevokeTarget)
  | clawback (body : Clawback)
  | clawbackClaimableBalance (id : ClaimableBalanceId)
  | setTrustLineFlags (body : SetTrustLineFlags)
  | poolDeposit (body : PoolDeposit)
  | poolWithdraw (body : PoolWithdraw)
  deriving DecidableEq

namespace OperationBody

def kind : OperationBody → OperationKind
  | .createAccount _ => .createAccount
  | .payment _ => .payment
  | .pathPaymentStrictReceive _ => .pathPaymentStrictReceive
  | .manageSellOffer _ => .manageSellOffer
  | .createPassiveSellOffer _ => .createPassiveSellOffer
  | .setOptions _ => .setOptions
  | .changeTrust _ => .changeTrust
  | .allowTrust _ => .allowTrust
  | .accountMerge _ => .accountMerge
  | .inflation => .inflation
  | .manageData _ => .manageData
  | .bumpSequence _ => .bumpSequence
  | .manageBuyOffer _ => .manageBuyOffer
  | .pathPaymentStrictSend _ => .pathPaymentStrictSend
  | .createClaimableBalance _ => .createClaimableBalance
  | .claimClaimableBalance _ => .claimClaimableBalance
  | .beginSponsoring _ => .beginSponsoring
  | .endSponsoring => .endSponsoring
  | .revokeSponsorship _ => .revokeSponsorship
  | .clawback _ => .clawback
  | .clawbackClaimableBalance _ => .clawbackClaimableBalance
  | .setTrustLineFlags _ => .setTrustLineFlags
  | .poolDeposit _ => .poolDeposit
  | .poolWithdraw _ => .poolWithdraw

/-- The layout of the bodies of one kind. -/
def codecOf : OperationKind → Codec OperationBody
  | .createAccount =>
    CreateAccount.codec.arm .createAccount fun | .createAccount body => some body | _ => none
  | .payment => Payment.codec.arm .payment fun | .payment body => some body | _ => none
  | .pathPaymentStrictReceive =>
    PathPayment.codec.arm .pathPaymentStrictReceive
      fun | .pathPaymentStrictReceive body => some body | _ => none
  | .manageSellOffer =>
    ManageOffer.codec.arm .manageSellOffer fun | .manageSellOffer body => some body | _ => none
  | .createPassiveSellOffer =>
    OfferTerms.codec.arm .createPassiveSellOffer
      fun | .createPassiveSellOffer terms => some terms | _ => none
  | .setOptions => SetOptions.codec.arm .setOptions fun | .setOptions body => some body | _ => none
  | .changeTrust =>
    ChangeTrust.codec.arm .changeTrust fun | .changeTrust body => some body | _ => none
  | .allowTrust => AllowTrust.codec.arm .allowTrust fun | .allowTrust body => some body | _ => none
  | .accountMerge =>
    MuxedAccount.codec.arm .accountMerge
      fun | .accountMerge destination => some destination | _ => none
  | .inflation =>
    Codec.nothing.arm (fun _ => .inflation) fun | .inflation => some () | _ => none
  | .manageData => ManageData.codec.arm .manageData fun | .manageData body => some body | _ => none
  | .bumpSequence =>
    Codec.int64.arm .bumpSequence fun | .bumpSequence bumpTo => some bumpTo | _ => none
  | .manageBuyOffer =>
    ManageOffer.codec.arm .manageBuyOffer fun | .manageBuyOffer body => some body | _ => none
  | .pathPaymentStrictSend =>
    PathPayment.codec.arm .pathPaymentStrictSend
      fun | .pathPaymentStrictSend body => some body | _ => none
  | .createClaimableBalance =>
    CreateClaimableBalance.codec.arm .createClaimableBalance
      fun | .createClaimableBalance body => some body | _ => none
  | .claimClaimableBalance =>
    ClaimableBalanceId.codec.arm .claimClaimableBalance
      fun | .claimClaimableBalance id => some id | _ => none
  | .beginSponsoring =>
    PublicKey.codec.arm .beginSponsoring
      fun | .beginSponsoring sponsored => some sponsored | _ => none
  | .endSponsoring =>
    Codec.nothing.arm (fun _ => .endSponsoring) fun | .endSponsoring => some () | _ => none
  | .revokeSponsorship =>
    RevokeTarget.codec.arm .revokeSponsorship
      fun | .revokeSponsorship target => some target | _ => none
  | .clawback => Clawback.codec.arm .clawback fun | .clawback body => some body | _ => none
  | .clawbackClaimableBalance =>
    ClaimableBalanceId.codec.arm .clawbackClaimableBalance
      fun | .clawbackClaimableBalance id => some id | _ => none
  | .setTrustLineFlags =>
    SetTrustLineFlags.codec.arm .setTrustLineFlags
      fun | .setTrustLineFlags body => some body | _ => none
  | .poolDeposit =>
    PoolDeposit.codec.arm .poolDeposit fun | .poolDeposit body => some body | _ => none
  | .poolWithdraw =>
    PoolWithdraw.codec.arm .poolWithdraw fun | .poolWithdraw body => some body | _ => none

/-- The wire form: the number of the kind, then what the kind carries. -/
def codec : Codec OperationBody :=
  Codec.union Codec.int32 (fun body => body.kind.number)
    (fun number => (OperationKind.ofNumber? number).map codecOf)
    (fun number => Failure.xdr s!"unknown operation type: {number}")

/-- Whether two bodies are the same, deadlines compared in a given way. -/
def sameBy (times : TimeRelation) : OperationBody → OperationBody → Bool
  | .createClaimableBalance a, .createClaimableBalance b => a.sameBy times b
  | a, b => a == b

end OperationBody

/-- What is to be done, and the account in whose name if it is stated. -/
structure Operation where
  source : Option MuxedAccount
  body : OperationBody
  deriving DecidableEq

namespace Operation

def kind (operation : Operation) : OperationKind := operation.body.kind

/-- Whether two operations are the same, deadlines compared in a given way. -/
def sameBy (times : TimeRelation) (a b : Operation) : Bool :=
  a.source == b.source && a.body.sameBy times b.body

/-- Whether two operations are the same. -/
def same (a b : Operation) : Bool := a.sameBy Moment.sameIfAny b

/-- The wire form: the source if there is one, then the body. -/
def codec : Codec Operation :=
  (MuxedAccount.codec.optional.pair OperationBody.codec).convert
    (fun parts => ⟨parts.1, parts.2⟩)
    (fun operation => (operation.source, operation.body))

/-- The wire form of operations of one kind: others are read, and then refused. -/
def codecOf (kind : OperationKind) : Codec Operation :=
  codec.refine
    (fun operation =>
      if operation.kind = kind then .ok operation
      else .error (Failure.xdr
        s!"expected {kind.operationName}, got {operation.kind.operationName}"))
    id

end Operation

end LedgerWire
