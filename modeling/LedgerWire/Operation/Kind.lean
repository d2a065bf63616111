import LedgerWire.Fault

/-!
Contract: the kinds of operation that there are, each with its number on the wire.

Owns:
- `OperationKind`, its numbers and names, and the search by number.

Does not own: what an operation of a kind carries.
-/

namespace LedgerWire

/-- The kinds of operation, by rising number. -/
inductive OperationKind where
  | createAccount
  | payment
  | pathPaymentStrictReceive
  | manageSellOffer
  | createPassiveSellOffer
  | setOptions
  | changeTrust
  | allowTrust
  | accountMerge
  | inflation
  | manageData
  | bumpSequence
  | manageBuyOffer
  | pathPaymentStrictSend
  | createClaimableBalance
  | claimClaimableBalance
  | beginSponsoring
  | endSponsoring
  | revokeSponsorship
  | clawback
  | clawbackClaimableBalance
  | setTrustLineFlags
  | poolDeposit
  | poolWithdraw
  deriving DecidableEq, Repr

namespace OperationKind

def all : List OperationKind := [
  .createAccount, .payment, .pathPaymentStrictReceive, .manageSellOffer, .createPassiveSellOffer,
  .setOptions, .changeTrust, .allowTrust, .accountMerge, .inflation, .manageData, .bumpSequence,
  .manageBuyOffer, .pathPaymentStrictSend, .createClaimableBalance, .claimClaimableBalance,
  .beginSponsoring, .endSponsoring, .revokeSponsorship, .clawback, .clawbackClaimableBalance,
  .setTrustLineFlags, .poolDeposit, .poolWithdraw]

def number : OperationKind → Int
  | .createAccount => 0
  | .payment => 1
  | .pathPaymentStrictReceive => 2
  | .manageSellOffer => 3
  | .createPassiveSellOffer => 4
  | .setOptions => 5
  | .changeTrust => 6
  | .allowTrust => 7
  | .accountMerge => 8
  | .inflation => 9
  | .manageData => 10
  | .bumpSequence => 11
  | .manageBuyOffer => 12
  | .pathPaymentStrictSend => 13
  | .createClaimableBalance => 14
  | .claimClaimableBalance => 15
  | .beginSponsoring => 16
  | .endSponsoring => 17
  | .revokeSponsorship => 18
  | .clawback => 19
  | .clawbackClaimableBalance => 20
  | .setTrustLineFlags => 21
  | .poolDeposit => 22
  | .poolWithdraw => 23

def ofNumber? (number : Int) : Option OperationKind :=
  all.find? (·.number == number)

def name : OperationKind → String
  | .createAccount => "CREATE_ACCOUNT"
  | .payment => "PAYMENT"
  | .pathPaymentStrictReceive => "PATH_PAYMENT_STRICT_RECEIVE"
  | .manageSellOffer => "MANAGE_SELL_OFFER"
  | .createPassiveSellOffer => "CREATE_PASSIVE_SELL_OFFER"
  | .setOptions => "SET_OPTIONS"
  | .changeTrust => "CHANGE_TRUST"
  | .allowTrust => "ALLOW_TRUST"
  | .accountMerge => "ACCOUNT_MERGE"
  | .inflation => "INFLATION"
  | .manageData => "MANAGE_DATA"
  | .bumpSequence => "BUMP_SEQUENCE"
  | .manageBuyOffer => "MANAGE_BUY_OFFER"
  | .pathPaymentStrictSend => "PATH_PAYMENT_STRICT_SEND"
  | .createClaimableBalance => "CREATE_CLAIMABLE_BALANCE"
  | .claimClaimableBalance => "CLAIM_CLAIMABLE_BALANCE"
  | .beginSponsoring => "BEGIN_SPONSORING_FUTURE_RESERVES"
  | .endSponsoring => "END_SPONSORING_FUTURE_RESERVES"
  | .revokeSponsorship => "REVOKE_SPONSORSHIP"
  | .clawback => "CLAWBACK"
  | .clawbackClaimableBalance => "CLAWBACK_CLAIMABLE_BALANCE"
  | .setTrustLineFlags => "SET_TRUST_LINE_FLAGS"
  | .poolDeposit => "LIQUIDITY_POOL_DEPOSIT"
  | .poolWithdraw => "LIQUIDITY_POOL_WITHDRAW"

def word : OperationKind → String
  | .createAccount => "CreateAccount"
  | .payment => "Payment"
  | .pathPaymentStrictReceive => "PathPaymentStrictReceive"
  | .manageSellOffer => "ManageSellOffer"
  | .createPassiveSellOffer => "CreatePassiveSellOffer"
  | .setOptions => "SetOptions"
  | .changeTrust => "ChangeTrust"
  | .allowTrust => "AllowTrust"
  | .accountMerge => "AccountMerge"
  | .inflation => "Inflation"
  | .manageData => "ManageData"
  | .bumpSequence => "BumpSequence"
  | .manageBuyOffer => "ManageBuyOffer"
  | .pathPaymentStrictSend => "PathPaymentStrictSend"
  | .createClaimableBalance => "CreateClaimableBalance"
  | .claimClaimableBalance => "ClaimClaimableBalance"
  | .beginSponsoring => "BeginSponsoringFutureReserves"
  | .endSponsoring => "EndSponsoringFutureReserves"
  | .revokeSponsorship => "RevokeSponsorship"
  | .clawback => "Clawback"
  | .clawbackClaimableBalance => "ClawbackClaimableBalance"
  | .setTrustLineFlags => "SetTrustLineFlags"
  | .poolDeposit => "LiquidityPoolDeposit"
  | .poolWithdraw => "LiquidityPoolWithdraw"

/-- The name of the operations of a kind, as messages call them. -/
def operationName (kind : OperationKind) : String := kind.word ++ "Operation"

/-- The name of the builder of operations of a kind. -/
def builderName (kind : OperationKind) : String := kind.operationName ++ "Builder"

theorem ofNumber?_number (kind : OperationKind) : ofNumber? kind.number = some kind := by
  cases kind <;> rfl

theorem number_eq_of_ofNumber? {n : Int} {kind : OperationKind}
    (found : ofNumber? n = some kind) : kind.number = n := by
  simpa using List.find?_some found

end OperationKind

end LedgerWire
