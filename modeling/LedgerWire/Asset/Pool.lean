import LedgerWire.Asset.Basic

/-!
Contract: liquidity pools, and the two places on the wire where a share of a pool may stand instead
of an asset: a trust line names the pool by its id, a change of trust gives the pool's parameters.

Owns:
- `LiquidityPoolId` and `PoolParameters`;
- `AssetOrPool`, with `TrustLineAsset` and `ChangeTrustAsset`.

Does not own: assets.
-/

namespace LedgerWire

open Wire

/-- The hash that names a liquidity pool. -/
structure LiquidityPoolId where
  hash : FixedBytes 32
  deriving DecidableEq

namespace LiquidityPoolId

def bytes (id : LiquidityPoolId) : Bytes := id.hash.bytes

def ofBytes (bytes : Bytes) : Except Failure LiquidityPoolId :=
  if h : bytes.length = 32 then .ok ⟨⟨bytes, h⟩⟩
  else .error (Failure.withDetail .invalidLiquidityPoolId "length" (.number bytes.length))

def ofHex (text : String) : Except Failure LiquidityPoolId :=
  match Bytes.ofHex? text with
  | none => .error .malformedHex
  | some bytes => ofBytes bytes

def describe (id : LiquidityPoolId) : String := s!"LiquidityPoolId.from_hex('{id.bytes.toHex}')"

def codec : Codec LiquidityPoolId := (Codec.fixedBytes 32).convert (⟨·⟩) (·.hash)

end LiquidityPoolId

/-- A pool of two assets that keeps their product constant, with a fee in hundredths of a
percent. -/
structure PoolParameters where
  assetA : Asset
  assetB : Asset
  fee : Int
  deriving DecidableEq

namespace PoolParameters

def defaultFee : Int := 30

def describe (pool : PoolParameters) : String :=
  s!"LiquidityPoolConstantFeeParameters({pool.assetA.describe}, {pool.assetB.describe}, {pool.fee})"

/-- The parameters without the number of the kind of pool. -/
def bareCodec : Codec PoolParameters :=
  (Asset.codec.pair (Asset.codec.pair Codec.int32)).convert
    (fun parts => ⟨parts.1, parts.2.1, parts.2.2⟩)
    (fun pool => (pool.assetA, pool.assetB, pool.fee))

/-- The wire form: the number of the only kind of pool, then the parameters. -/
def codec : Codec PoolParameters :=
  Codec.union Codec.int32 (fun _ => 0)
    (fun kind => if kind = 0 then some bareCodec else none)
    (fun kind => Failure.xdr s!"unknown liquidity pool type: {kind}")

end PoolParameters

/-- An asset or a share of a pool. -/
inductive AssetOrPool (Pool : Type) where
  | asset (value : Asset)
  | pool (value : Pool)
  deriving DecidableEq

namespace AssetOrPool

variable {Pool : Type}

/-- The choice that exactly one given value makes. -/
def choose : Option Asset → Option Pool → Except Failure (AssetOrPool Pool)
  | some value, none => .ok (.asset value)
  | none, some value => .ok (.pool value)
  | _, _ => .error .ambiguousChoice

/-- The number of the form on the wire; a share of a pool has three. -/
def formNumber : AssetOrPool Pool → Int
  | .asset value => value.formNumber
  | .pool _ => 3

/-- The layouts of the forms: those of assets, and that of a pool. -/
def forms (poolCodec : Codec Pool) (form : Int) : Option (Codec (AssetOrPool Pool)) :=
  if form = 3 then
    some (poolCodec.arm .pool fun | .asset _ => none | .pool value => some value)
  else
    (Asset.forms form).map fun codec =>
      codec.arm .asset fun | .asset value => some value | .pool _ => none

/-- The wire form. `name` is what messages call an unknown number. -/
def codec (poolCodec : Codec Pool) (name : String) : Codec (AssetOrPool Pool) :=
  Codec.union Codec.int32 formNumber (forms poolCodec)
    (fun form => Failure.xdr s!"unknown {name} asset type: {form}")

end AssetOrPool

/-- What a trust line holds. -/
abbrev TrustLineAsset := AssetOrPool LiquidityPoolId

/-- What a change of trust is about. -/
abbrev ChangeTrustAsset := AssetOrPool PoolParameters

namespace TrustLineAsset

def describe : TrustLineAsset → String
  | .asset value => s!"TrustLineAsset.from_asset({value.describe})"
  | .pool value => s!"TrustLineAsset.new_pool_share({value.describe})"

def codec : Codec TrustLineAsset := AssetOrPool.codec LiquidityPoolId.codec "trust line"

end TrustLineAsset

namespace ChangeTrustAsset

def describe : ChangeTrustAsset → String
  | .asset value => s!"ChangeTrustAsset.from_asset({value.describe})"
  | .pool value => s!"ChangeTrustAsset.new_pool_share({value.describe})"

def codec : Codec ChangeTrustAsset := AssetOrPool.codec PoolParameters.codec "change trust"

end ChangeTrustAsset

end LedgerWire
