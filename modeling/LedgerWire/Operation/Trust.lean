import LedgerWire.Account.Flags
import LedgerWire.Asset.Pool
import LedgerWire.Keys.MuxedAccount
import LedgerWire.Stroops

/-!
Contract: operations on trust lines: setting them up, authorizing them, and clawing assets back. On
the wire a limit of zero takes a trust line down, and here that is a missing limit.

Owns:
- `ChangeTrust`, `AllowTrust`, `SetTrustLineFlags` and `Clawback` with their wire forms.

Does not own: assets and flags.
-/

namespace LedgerWire

open Wire

/-- The limit of a trust line that stays. -/
structure TrustLimit where
  stroops : Stroops
  ne_zero : stroops.value ≠ 0
  deriving DecidableEq

namespace TrustLimit

/-- The limit of a count; zero is none. -/
def ofStroops? (stroops : Stroops) : Option TrustLimit :=
  if h : stroops.value = 0 then none else some ⟨stroops, h⟩

/-- The count of a limit that may be missing. -/
def stroopsOf : Option TrustLimit → Stroops
  | none => ⟨0, by decide⟩
  | some limit => limit.stroops

def optionalCodec : Codec (Option TrustLimit) :=
  Stroops.codec.convert ofStroops? stroopsOf

end TrustLimit

/-- Sets up, changes or takes down a trust line. -/
structure ChangeTrust where
  line : ChangeTrustAsset
  limit : Option TrustLimit
  deriving DecidableEq

def ChangeTrust.codec : Codec ChangeTrust :=
  (ChangeTrustAsset.codec.pair TrustLimit.optionalCodec).convert
    (fun parts => ⟨parts.1, parts.2⟩)
    (fun body => (body.line, body.limit))

/-- Authorizes a holder of an asset that the source issues: only the code is carried. -/
structure AllowTrust where
  trustor : PublicKey
  code : AssetCode
  authorize : TrustLineFlags
  deriving DecidableEq

namespace AllowTrust

/-- A code after the number of its form. -/
def codeCodec : Codec AssetCode :=
  Codec.union Codec.int32 AssetCode.formNumber
    (fun form => if form = 1 || form = 2 then some (AssetCode.codec form) else none)
    (fun form => Failure.xdr s!"unknown allow trust asset type: {form}")

def codec : Codec AllowTrust :=
  (PublicKey.codec.pair (codeCodec.pair TrustLineFlags.codec)).convert
    (fun (trustor, code, authorize) => ⟨trustor, code, authorize⟩)
    (fun body => (body.trustor, body.code, body.authorize))

end AllowTrust

/-- Clears and sets flags of another account's trust line. -/
structure SetTrustLineFlags where
  trustor : PublicKey
  asset : Asset
  clearFlags : TrustLineFlags
  setFlags : TrustLineFlags
  deriving DecidableEq

def SetTrustLineFlags.codec : Codec SetTrustLineFlags :=
  (PublicKey.codec.pair <|
    Asset.codec.pair <|
    TrustLineFlags.codec.pair TrustLineFlags.codec).convert
    (fun (trustor, asset, clear, set) => ⟨trustor, asset, clear, set⟩)
    (fun body => (body.trustor, body.asset, body.clearFlags, body.setFlags))

/-- Takes back an amount of an asset that the source issues. -/
structure Clawback where
  asset : Asset
  holder : MuxedAccount
  amount : Stroops
  deriving DecidableEq

def Clawback.codec : Codec Clawback :=
  (Asset.codec.pair (MuxedAccount.codec.pair Stroops.codec)).convert
    (fun (asset, holder, amount) => ⟨asset, holder, amount⟩)
    (fun body => (body.asset, body.holder, body.amount))

end LedgerWire
