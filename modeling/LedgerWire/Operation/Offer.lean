import LedgerWire.Asset.Basic
import LedgerWire.Price

/-!
Contract: offers to exchange assets. An offer that is changed is named by its id; on the wire an id
of zero stands for a new offer, so zero is no id.

Owns:
- `OfferTerms`, `OfferId` and `ManageOffer` with their wire forms.

Does not own: how offers are matched.
-/

namespace LedgerWire

open Wire

/-- What is exchanged, and how. -/
structure OfferTerms where
  selling : Asset
  buying : Asset
  amount : Stroops
  price : Price
  deriving DecidableEq

def OfferTerms.codec : Codec OfferTerms :=
  (Asset.codec.pair (Asset.codec.pair (Stroops.codec.pair Price.codec))).convert
    (fun (selling, buying, amount, price) => ⟨selling, buying, amount, price⟩)
    (fun terms => (terms.selling, terms.buying, terms.amount, terms.price))

structure OfferId where
  value : Int
  ne_zero : value ≠ 0
  deriving DecidableEq

namespace OfferId

/-- The id of a number; zero is none. -/
def ofInt? (n : Int) : Option OfferId :=
  if h : n = 0 then none else some ⟨n, h⟩

def optionalCodec : Codec (Option OfferId) :=
  Codec.int64.convert ofInt? fun id => (id.map OfferId.value).getD 0

end OfferId

/-- Makes an offer, or changes or withdraws the offer of an id. -/
structure ManageOffer where
  terms : OfferTerms
  offerId : Option OfferId
  deriving DecidableEq

def ManageOffer.codec : Codec ManageOffer :=
  (OfferTerms.codec.pair OfferId.optionalCodec).convert
    (fun parts => ⟨parts.1, parts.2⟩)
    (fun body => (body.terms, body.offerId))

end LedgerWire
