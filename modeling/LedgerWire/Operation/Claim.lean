import LedgerWire.Asset.Basic
import LedgerWire.Claim.Balance
import LedgerWire.Stroops

/-!
Contract: putting an amount aside for others to claim.

Owns:
- `CreateClaimableBalance` with its wire form and the limit on claimants.

Does not own: claiming, whose whole content is the id of a balance.
-/

namespace LedgerWire

open Wire

/-- Puts an amount aside for those who may claim it. -/
structure CreateClaimableBalance where
  asset : Asset
  amount : Stroops
  claimants : List Claimant
  deriving DecidableEq

namespace CreateClaimableBalance

def maxClaimants : Nat := 10

/-- Whether two such operations are the same, deadlines compared in a given way. -/
def sameBy (times : TimeRelation) (a b : CreateClaimableBalance) : Bool :=
  a.asset == b.asset && a.amount == b.amount &&
    a.claimants.length == b.claimants.length &&
    (a.claimants.zip b.claimants).all fun pair => pair.1.sameBy times pair.2

def codec : Codec CreateClaimableBalance :=
  (Asset.codec.pair (Stroops.codec.pair (Claimant.codec.array (some maxClaimants)))).convert
    (fun (asset, amount, claimants) => ⟨asset, amount, claimants⟩)
    (fun body => (body.asset, body.amount, body.claimants))

end CreateClaimableBalance

end LedgerWire
