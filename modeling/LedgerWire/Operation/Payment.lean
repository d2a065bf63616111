import LedgerWire.Asset.Basic
import LedgerWire.Keys.MuxedAccount
import LedgerWire.Stroops

/-!
Contract: payments, direct and along a path of exchanges. The two kinds of path payment have one
layout and differ in which of the two amounts is exact and which a bound on what the exchanges give.

Owns:
- `Payment` and `PathPayment` with their wire forms, and the limit on paths.

Does not own: the exchanges.
-/

namespace LedgerWire

open Wire

structure Payment where
  destination : MuxedAccount
  asset : Asset
  amount : Stroops
  deriving DecidableEq

def Payment.codec : Codec Payment :=
  (MuxedAccount.codec.pair (Asset.codec.pair Stroops.codec)).convert
    (fun (destination, asset, amount) => ⟨destination, asset, amount⟩)
    (fun body => (body.destination, body.asset, body.amount))

/-- Pays in one asset what is received in another, by way of the assets of a path. -/
structure PathPayment where
  destination : MuxedAccount
  sendAsset : Asset
  sendAmount : Stroops
  destinationAsset : Asset
  destinationAmount : Stroops
  path : List Asset
  deriving DecidableEq

namespace PathPayment

def maxPathLength : Nat := 5

def codec : Codec PathPayment :=
  (Asset.codec.pair <|
    Stroops.codec.pair <|
    MuxedAccount.codec.pair <|
    Asset.codec.pair <|
    Stroops.codec.pair <|
    Asset.codec.array (some maxPathLength)).convert
    (fun (sendAsset, sendAmount, destination, destinationAsset, destinationAmount, path) =>
      ⟨destination, sendAsset, sendAmount, destinationAsset, destinationAmount, path⟩)
    (fun body =>
      (body.sendAsset, body.sendAmount, body.destination, body.destinationAsset,
        body.destinationAmount, body.path))

end PathPayment

end LedgerWire
