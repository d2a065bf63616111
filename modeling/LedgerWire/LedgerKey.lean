import LedgerWire.Asset.Pool
import LedgerWire.Claim.Balance

/-!
Contract: keys of ledger entries, each the account it belongs to and what tells it from the
account's other entries, or a hash.

Owns:
- `LedgerKey` and its wire form.

Does not own: the entries.
-/

namespace LedgerWire

open Wire

inductive LedgerEntryKind where
  | account
  | trustLine
  | offer
  | data
  | claimableBalance
  | liquidityPool
  deriving DecidableEq, Repr

namespace LedgerEntryKind

def all : List LedgerEntryKind :=
  [.account, .trustLine, .offer, .data, .claimableBalance, .liquidityPool]

def number : LedgerEntryKind → Int
  | .account => 0
  | .trustLine => 1
  | .offer => 2
  | .data => 3
  | .claimableBalance => 4
  | .liquidityPool => 5

def name : LedgerEntryKind → String
  | .account => "ACCOUNT"
  | .trustLine => "TRUSTLINE"
  | .offer => "OFFER"
  | .data => "DATA"
  | .claimableBalance => "CLAIMABLE_BALANCE"
  | .liquidityPool => "LIQUIDITY_POOL"

end LedgerEntryKind

inductive LedgerKey where
  | account (owner : PublicKey)
  | trustLine (owner : PublicKey) (asset : TrustLineAsset)
  | offer (seller : PublicKey) (offerId : Int)
  | data (owner : PublicKey) (name : String)
  | claimableBalance (id : ClaimableBalanceId)
  | liquidityPool (id : LiquidityPoolId)
  deriving DecidableEq

namespace LedgerKey

def kind : LedgerKey → LedgerEntryKind
  | .account _ => .account
  | .trustLine _ _ => .trustLine
  | .offer _ _ => .offer
  | .data _ _ => .data
  | .claimableBalance _ => .claimableBalance
  | .liquidityPool _ => .liquidityPool

def account? : LedgerKey → Option PublicKey
  | .account owner => some owner
  | .trustLine owner _ => some owner
  | .offer seller _ => some seller
  | .data owner _ => some owner
  | _ => none

/-- How a key is shown in descriptions: only its kind. -/
def describe (key : LedgerKey) : String := s!"LedgerKey({key.kind.name})"

def kinds (kind : Int) : Option (Codec LedgerKey) :=
  if kind = 0 then
    some (PublicKey.codec.arm .account fun | .account owner => some owner | _ => none)
  else if kind = 1 then
    some ((PublicKey.codec.pair TrustLineAsset.codec).arm (fun parts => .trustLine parts.1 parts.2)
      fun | .trustLine owner asset => some (owner, asset) | _ => none)
  else if kind = 2 then
    some ((PublicKey.codec.pair Codec.int64).arm (fun parts => .offer parts.1 parts.2)
      fun | .offer seller offerId => some (seller, offerId) | _ => none)
  else if kind = 3 then
    some ((PublicKey.codec.pair (Codec.text (some 64))).arm (fun parts => .data parts.1 parts.2)
      fun | .data owner name => some (owner, name) | _ => none)
  else if kind = 4 then
    some (ClaimableBalanceId.codec.arm .claimableBalance
      fun | .claimableBalance id => some id | _ => none)
  else if kind = 5 then
    some (LiquidityPoolId.codec.arm .liquidityPool
      fun | .liquidityPool id => some id | _ => none)
  else
    none

def codec : Codec LedgerKey :=
  Codec.union Codec.int32 (·.kind.number) kinds
    (fun kind => Failure.xdrBecause s!"unknown ledger entry type: {kind}"
      s!"{kind} is not a valid LedgerEntryType")

end LedgerKey

end LedgerWire
