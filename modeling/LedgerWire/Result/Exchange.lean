import LedgerWire.Asset.Pool
import LedgerWire.Operation.Offer

/-!
Contract: what path payments and offers did: the offers and pools they traded with, what arrived at
the end of a path, and what became of an offer.

Owns:
- `ClaimAtom`, `PathPaymentSuccess`, `OfferEntry` and `ManageOfferSuccess` with their wire forms.

Does not own: with which codes they come.
-/

namespace LedgerWire

open Wire

/-- The kinds of counterparty of a trade. Two kinds are offers, told apart by how the wire spells
the key of who made the offer. -/
inductive ClaimAtomKind where
  | v0
  | orderBook
  | liquidityPool
  deriving DecidableEq, Repr

namespace ClaimAtomKind

def all : List ClaimAtomKind := [.v0, .orderBook, .liquidityPool]

def number : ClaimAtomKind → Int
  | .v0 => 0
  | .orderBook => 1
  | .liquidityPool => 2

def name : ClaimAtomKind → String
  | .v0 => "V0"
  | .orderBook => "ORDER_BOOK"
  | .liquidityPool => "LIQUIDITY_POOL"

end ClaimAtomKind

/-- Whether the parts that a kind of counterparty needs are there. -/
def ClaimAtomKind.Complete
    (kind : ClaimAtomKind)
    (seller : Option PublicKey)
    (offerId : Option Int)
    (pool : Option LiquidityPoolId) : Prop :=
  match kind with
  | .v0 | .orderBook => seller.isSome ∧ offerId.isSome
  | .liquidityPool => pool.isSome

instance
    (kind : ClaimAtomKind)
    (seller : Option PublicKey)
    (offerId : Option Int)
    (pool : Option LiquidityPoolId) : Decidable (kind.Complete seller offerId pool) :=
  match kind with
  | .v0 | .orderBook => inferInstanceAs (Decidable (_ ∧ _))
  | .liquidityPool => inferInstanceAs (Decidable (_ = _))

/-- The counterparty of a trade. The parts that its kind needs are there; others may be, and the
wire does not carry them. -/
structure Counterparty where
  kind : ClaimAtomKind
  seller : Option PublicKey
  offerId : Option Int
  pool : Option LiquidityPoolId
  complete : kind.Complete seller offerId pool
  deriving DecidableEq

namespace Counterparty

/-- The counterparty of the given parts. -/
def make
    (kind : ClaimAtomKind)
    (seller : Option PublicKey)
    (offerId : Option Int)
    (pool : Option LiquidityPoolId) : Except Failure Counterparty :=
  if h : kind.Complete seller offerId pool then
    .ok ⟨kind, seller, offerId, pool, h⟩
  else if kind = .liquidityPool then
    .error (Failure.xdr "liquidity pool claim atom needs a pool id")
  else
    .error (Failure.xdr "order book claim atom needs a seller and an offer id")

/-- An offer, by its maker and its number. -/
def ofOffer (kind : ClaimAtomKind) (h : kind ≠ .liquidityPool) (offer : PublicKey × Int) :
    Counterparty :=
  ⟨kind, some offer.1, some offer.2, none, by cases kind <;> simp_all [ClaimAtomKind.Complete]⟩

/-- A liquidity pool. -/
def ofPool (pool : LiquidityPoolId) : Counterparty :=
  ⟨.liquidityPool, none, none, some pool, by simp [ClaimAtomKind.Complete]⟩

/-- The maker and the number of an offer, where both are there. -/
def offer? (counterparty : Counterparty) : Option (PublicKey × Int) := do
  return (← counterparty.seller, ← counterparty.offerId)

def kinds (kind : Int) : Option (Codec Counterparty) :=
  if kind = 0 then
    some ((PublicKey.bareCodec.pair Codec.int64).arm (ofOffer .v0 (by decide)) offer?)
  else if kind = 1 then
    some ((PublicKey.codec.pair Codec.int64).arm (ofOffer .orderBook (by decide)) offer?)
  else if kind = 2 then
    some (LiquidityPoolId.codec.arm ofPool Counterparty.pool)
  else
    none

def codec : Codec Counterparty :=
  Codec.union Codec.int32 (·.kind.number) kinds
    (fun kind => Failure.xdrBecause s!"unknown claim atom type: {kind}"
      s!"{kind} is not a valid ClaimAtomType")

end Counterparty

structure ClaimAtom where
  counterparty : Counterparty
  assetSold : Asset
  amountSold : Stroops
  assetBought : Asset
  amountBought : Stroops
  deriving DecidableEq

def ClaimAtom.codec : Codec ClaimAtom :=
  (Counterparty.codec.pair <|
    Asset.codec.pair <|
    Stroops.codec.pair <|
    Asset.codec.pair Stroops.codec).convert
    (fun (counterparty, assetSold, amountSold, assetBought, amountBought) =>
      ⟨counterparty, assetSold, amountSold, assetBought, amountBought⟩)
    (fun atom =>
      (atom.counterparty, atom.assetSold, atom.amountSold, atom.assetBought, atom.amountBought))

/-- What arrived at the end of a path. -/
structure ReceivedPayment where
  destination : PublicKey
  asset : Asset
  amount : Stroops
  deriving DecidableEq

def ReceivedPayment.codec : Codec ReceivedPayment :=
  (PublicKey.codec.pair (Asset.codec.pair Stroops.codec)).convert
    (fun (destination, asset, amount) => ⟨destination, asset, amount⟩)
    (fun received => (received.destination, received.asset, received.amount))

/-- What a path payment did. -/
structure PathPaymentSuccess where
  trades : List ClaimAtom
  received : ReceivedPayment
  deriving DecidableEq

def PathPaymentSuccess.codec : Codec PathPaymentSuccess :=
  ((ClaimAtom.codec.array none).pair ReceivedPayment.codec).convert
    (fun parts => ⟨parts.1, parts.2⟩)
    (fun success => (success.trades, success.received))

/-- An offer as the ledger keeps it. -/
structure OfferEntry where
  seller : PublicKey
  offerId : Int
  terms : OfferTerms
  flags : Int
  deriving DecidableEq

namespace OfferEntry

def unknownExtension (version : Int) : Failure :=
  Failure.xdr s!"unsupported offer entry extension version: {version}"

def codec : Codec OfferEntry :=
  (PublicKey.codec.pair <|
    Codec.int64.pair <|
    OfferTerms.codec.pair <|
    Codec.uint32.pair (Codec.reserved unknownExtension)).convert
    (fun (seller, offerId, terms, flags, _) => ⟨seller, offerId, terms, flags⟩)
    (fun entry => (entry.seller, entry.offerId, entry.terms, entry.flags, ()))

end OfferEntry

/-- What can become of an offer. -/
inductive OfferEffectKind where
  | created
  | updated
  | deleted
  deriving DecidableEq, Repr

namespace OfferEffectKind

/-- All effects, by rising number. -/
def all : List OfferEffectKind := [.created, .updated, .deleted]

def number : OfferEffectKind → Int
  | .created => 0
  | .updated => 1
  | .deleted => 2

def name : OfferEffectKind → String
  | .created => "CREATED"
  | .updated => "UPDATED"
  | .deleted => "DELETED"

end OfferEffectKind

/-- What became of an offer, with the offer unless it is gone. -/
inductive OfferEffect where
  | created (entry : OfferEntry)
  | updated (entry : OfferEntry)
  | deleted
  deriving DecidableEq

namespace OfferEffect

def kind : OfferEffect → OfferEffectKind
  | .created _ => .created
  | .updated _ => .updated
  | .deleted => .deleted

/-- The offer, unless it is gone. -/
def entry? : OfferEffect → Option OfferEntry
  | .created entry | .updated entry => some entry
  | .deleted => none

def make (kind : OfferEffectKind) (entry : Option OfferEntry) : Except Failure OfferEffect :=
  match kind, entry with
  | .created, some entry => .ok (.created entry)
  | .updated, some entry => .ok (.updated entry)
  | .deleted, none => .ok .deleted
  | kind, _ => .error (Failure.xdr s!"offer entry does not match effect {kind.name}")

def kinds (kind : Int) : Option (Codec OfferEffect) :=
  if kind = 0 then some (OfferEntry.codec.arm .created entry?)
  else if kind = 1 then some (OfferEntry.codec.arm .updated entry?)
  else if kind = 2 then
    some (Codec.nothing.arm (fun _ => .deleted) fun | .deleted => some () | _ => none)
  else none

def codec : Codec OfferEffect :=
  Codec.union Codec.int32 (·.kind.number) kinds
    (fun kind => Failure.xdrBecause s!"unknown manage offer effect: {kind}"
      s!"{kind} is not a valid ManageOfferEffect")

end OfferEffect

/-- What an offer did when it was made or changed. -/
structure ManageOfferSuccess where
  trades : List ClaimAtom
  effect : OfferEffect
  deriving DecidableEq

def ManageOfferSuccess.codec : Codec ManageOfferSuccess :=
  ((ClaimAtom.codec.array none).pair OfferEffect.codec).convert
    (fun parts => ⟨parts.1, parts.2⟩)
    (fun success => (success.trades, success.effect))

end LedgerWire
