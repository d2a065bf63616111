import LedgerWire.Account.Signer
import LedgerWire.LedgerKey

/-!
Contract: what a sponsor may stop paying for: a ledger entry, or a signer of an account.

Owns:
- `RevokeTarget`, the choice between the two, and its wire form.

Does not own: who sponsors.
-/

namespace LedgerWire

open Wire

/-- What is no longer sponsored. -/
inductive RevokeTarget where
  | entry (key : LedgerKey)
  | signer (account : PublicKey) (key : SignerKey)
  deriving DecidableEq

namespace RevokeTarget

/-- The target that the given parts make: either a ledger key alone, or an account with a signer
key. -/
def choose :
    Option LedgerKey → Option PublicKey → Option SignerKey → Except Failure RevokeTarget
  | some key, none, none => .ok (.entry key)
  | none, some account, some key => .ok (.signer account key)
  | none, some _, none | none, none, some _ =>
    .error (Failure.operation "revoke sponsorship signer needs both an account and a key")
  | none, none, none | some _, _, _ =>
    .error (Failure.operation "revoke sponsorship needs exactly one of a ledger key or a signer")

def ledgerKey? : RevokeTarget → Option LedgerKey
  | .entry key => some key
  | .signer _ _ => none

def signer? : RevokeTarget → Option (PublicKey × SignerKey)
  | .entry _ => none
  | .signer account key => some (account, key)

def kindNumber : RevokeTarget → Int
  | .entry _ => 0
  | .signer _ _ => 1

def kinds (kind : Int) : Option (Codec RevokeTarget) :=
  if kind = 0 then some (LedgerKey.codec.arm .entry ledgerKey?)
  else if kind = 1 then
    some ((PublicKey.codec.pair SignerKey.codec).arm
      (fun parts => .signer parts.1 parts.2) signer?)
  else none

def codec : Codec RevokeTarget :=
  Codec.union Codec.int32 kindNumber kinds
    (fun kind => Failure.xdr s!"unknown revoke sponsorship type: {kind}")

end RevokeTarget

end LedgerWire
