import LedgerWire.Claim.Predicate
import LedgerWire.Keys.PublicKey

/-!
Contract: balances that wait to be claimed: the hash that names one, and who may claim it.

Owns:
- `ClaimableBalanceId` and `Claimant`.

Does not own: the conditions on a claim.
-/

namespace LedgerWire

open Wire

structure ClaimableBalanceId where
  hash : FixedBytes 32
  deriving DecidableEq

namespace ClaimableBalanceId

def bytes (id : ClaimableBalanceId) : Bytes := id.hash.bytes

def ofBytes (bytes : Bytes) : Except Failure ClaimableBalanceId :=
  if h : bytes.length = 32 then .ok ⟨⟨bytes, h⟩⟩
  else .error (Failure.withDetail .invalidClaimableBalanceId "length" (.number bytes.length))

def ofHex (text : String) : Except Failure ClaimableBalanceId :=
  match Bytes.ofHex? text with
  | none => .error .malformedHex
  | some bytes => ofBytes bytes

def describe (id : ClaimableBalanceId) : String :=
  s!"ClaimableBalanceId.from_hex('{id.bytes.toHex}')"

/-- The wire form: the number of the only kind of id, then the hash. -/
def codec : Codec ClaimableBalanceId :=
  Codec.union Codec.int32 (fun _ => 0)
    (fun kind => if kind = 0 then some ((Codec.fixedBytes 32).convert (⟨·⟩) (·.hash)) else none)
    (fun kind => Failure.xdr s!"unknown claimable balance id type: {kind}")

end ClaimableBalanceId

/-- Who may claim a balance, and when. -/
structure Claimant where
  destination : PublicKey
  predicate : ClaimPredicate
  deriving DecidableEq

namespace Claimant

def describe (claimant : Claimant) : String :=
  s!"Claimant({claimant.destination.describe}, {claimant.predicate.describe})"

/-- Whether two claimants are the same, deadlines compared in a given way. -/
def sameBy (times : TimeRelation) (a b : Claimant) : Bool :=
  a.destination == b.destination && a.predicate.sameBy times b.predicate

/-- Whether two claimants are the same. -/
def same (a b : Claimant) : Bool := a.sameBy Moment.sameIfAny b

/-- The wire form: the number of the only kind of claimant, then the key and the condition. -/
def codec : Codec Claimant :=
  Codec.union Codec.int32 (fun _ => 0)
    (fun kind =>
      if kind = 0 then
        some ((PublicKey.codec.pair ClaimPredicate.codec).convert
          (fun parts => ⟨parts.1, parts.2⟩)
          (fun claimant => (claimant.destination, claimant.predicate)))
      else
        none)
    (fun kind => Failure.xdr s!"unknown claimant type: {kind}")

end Claimant

end LedgerWire
