import LedgerWire.Operation.Basic

/-!
Contract: the fields from which operations are built. Each field has a type of values, a type of
what a caller may give for it, and the conversion of what is given, which may refuse it. Nothing
given empties a field again, where a field takes nothing.

Owns:
- `Field` with its name, its `Value`, its `Given` and the conversion `Field.read`.

Does not own: which kinds of operation have which fields.
-/

namespace LedgerWire

/-- The fields of operations. Kinds of operation share the fields that mean the same. -/
inductive Field where
  | source
  | newAccount
  | startingBalance
  | destination
  | asset
  | amount
  | sendAsset
  | sendMax
  | sendAmount
  | destinationAsset
  | destinationAmount
  | destinationMin
  | path
  | selling
  | buying
  | buyAmount
  | price
  | offerId
  | inflationDestination
  | clearAccountFlags
  | setAccountFlags
  | masterWeight
  | lowThreshold
  | mediumThreshold
  | highThreshold
  | homeDomain
  | signer
  | line
  | limit
  | trustor
  | assetCode
  | authorize
  | dataName
  | dataValue
  | bumpTo
  | claimants
  | balanceId
  | sponsored
  | revokeTarget
  | holder
  | clearLineFlags
  | setLineFlags
  | poolId
  | maxAmountA
  | maxAmountB
  | minPrice
  | maxPrice
  | minAmountA
  | minAmountB
  deriving DecidableEq, Repr

/-- What a caller may give for a value of data. -/
inductive DataSource where
  | value (value : DataValue)
  | bytes (value : Bytes)
  | text (value : String)
  | absent

/-- The value that was given: a text as its UTF-8 bytes. -/
def DataSource.toDataValue : DataSource → Except Failure (Option DataValue)
  | .value given => .ok (some given)
  | .bytes given => some <$> DataValue.ofBytes given
  | .text given => some <$> DataValue.ofText given
  | .absent => .ok none

/-- What a caller may give for a line of trust. -/
inductive LineSource where
  | line (value : ChangeTrustAsset)
  | asset (value : Asset)
  | absent

/-- The line that was given. -/
def LineSource.toLine : LineSource → Option ChangeTrustAsset
  | .line given => some given
  | .asset given => some (.asset given)
  | .absent => none

/-- What a caller may give for the code of an asset: also something else, told by how it would be
shown among the details of a fault. -/
inductive CodeSource where
  | asset (value : Asset)
  | text (value : String)
  | foreign (shown : Detail)

def CodeSource.toCode : CodeSource → Except Failure AssetCode
  | .asset .native =>
    .error (.fault (Fault.of .invalidAssetCode "allow trust needs a credit asset" [] none))
  | .asset (.credit given) => .ok given.code
  | .text given => AssetCode.ofText given
  | .foreign shown => .error (AssetCode.invalid shown)

namespace Field

/-- The name of a field. Fields of one name are fields of different kinds of operation. -/
def name : Field → String
  | .source => "source_account"
  | .newAccount | .destination => "destination"
  | .startingBalance => "starting_balance"
  | .asset => "asset"
  | .amount => "amount"
  | .sendAsset => "send_asset"
  | .sendMax => "send_max"
  | .sendAmount => "send_amount"
  | .destinationAsset => "destination_asset"
  | .destinationAmount => "destination_amount"
  | .destinationMin => "destination_min"
  | .path => "path"
  | .selling => "selling"
  | .buying => "buying"
  | .buyAmount => "buy_amount"
  | .price => "price"
  | .offerId => "offer_id"
  | .inflationDestination => "inflation_destination"
  | .clearAccountFlags | .clearLineFlags => "clear_flags"
  | .setAccountFlags | .setLineFlags => "set_flags"
  | .masterWeight => "master_weight"
  | .lowThreshold => "low_threshold"
  | .mediumThreshold => "medium_threshold"
  | .highThreshold => "high_threshold"
  | .homeDomain => "home_domain"
  | .signer => "signer"
  | .line => "line"
  | .limit => "limit"
  | .trustor => "trustor"
  | .assetCode => "asset_code"
  | .authorize => "authorize"
  | .dataName => "data_name"
  | .dataValue => "data_value"
  | .bumpTo => "bump_to"
  | .claimants => "claimants"
  | .balanceId => "balance_id"
  | .sponsored => "sponsored_id"
  | .revokeTarget => "target"
  | .holder => "from_account"
  | .poolId => "liquidity_pool_id"
  | .maxAmountA => "max_amount_a"
  | .maxAmountB => "max_amount_b"
  | .minPrice => "min_price"
  | .maxPrice => "max_price"
  | .minAmountA => "min_amount_a"
  | .minAmountB => "min_amount_b"

/-- The values that a field holds. -/
@[reducible] def Value : Field → Type
  | .source | .destination | .holder => MuxedAccount
  | .newAccount | .inflationDestination | .trustor | .sponsored => PublicKey
  | .startingBalance | .amount | .sendMax | .sendAmount | .destinationAmount | .destinationMin
  | .buyAmount | .limit | .maxAmountA | .maxAmountB | .minAmountA | .minAmountB => Stroops
  | .asset | .sendAsset | .destinationAsset | .selling | .buying => Asset
  | .path => List Asset
  | .price | .minPrice | .maxPrice => Price
  | .offerId | .bumpTo | .masterWeight | .lowThreshold | .mediumThreshold | .highThreshold => Int
  | .clearAccountFlags | .setAccountFlags => AccountFlags
  | .authorize | .clearLineFlags | .setLineFlags => TrustLineFlags
  | .homeDomain | .dataName => String
  | .signer => Signer
  | .line => ChangeTrustAsset
  | .assetCode => AssetCode
  | .dataValue => DataValue
  | .claimants => List Claimant
  | .balanceId => ClaimableBalanceId
  | .revokeTarget => RevokeTarget
  | .poolId => LiquidityPoolId

/-- What a caller may give for a field. -/
@[reducible] def Given : Field → Type
  | .source | .destination | .holder => AccountSource
  | .newAccount | .trustor | .sponsored => KeySource
  | .inflationDestination => Option KeySource
  | .startingBalance | .amount | .sendMax | .sendAmount | .destinationAmount | .destinationMin
  | .buyAmount | .maxAmountA | .maxAmountB | .minAmountA | .minAmountB => StroopsSource
  | .limit => Option StroopsSource
  | .asset | .sendAsset | .destinationAsset | .selling | .buying => Option Asset
  | .path => Option (List Asset)
  | .price | .minPrice | .maxPrice => Option Price
  | .offerId | .bumpTo | .masterWeight | .lowThreshold | .mediumThreshold | .highThreshold =>
    Option Int
  | .clearAccountFlags | .setAccountFlags => Option AccountFlags
  | .authorize | .clearLineFlags | .setLineFlags => Option TrustLineFlags
  | .homeDomain | .dataName => Option String
  | .signer => Option Signer
  | .line => LineSource
  | .assetCode => CodeSource
  | .dataValue => DataSource
  | .claimants => Option (List Claimant)
  | .balanceId => Option ClaimableBalanceId
  | .revokeTarget => Option RevokeTarget
  | .poolId => Option LiquidityPoolId

/-- The list that was given, which cannot be left out. -/
def listed {α : Type} : Option (List α) → Except Failure (Option (List α))
  | none => .error .wrongType
  | some items => .ok (some items)

/-- The value that was given for a field, or nothing. -/
def read : (field : Field) → field.Given → Except Failure (Option field.Value)
  | .source, given | .destination, given | .holder, given => some <$> given.toAccount
  | .newAccount, given | .trustor, given | .sponsored, given => some <$> given.toPublicKey
  | .inflationDestination, given => given.mapM KeySource.toPublicKey
  | .startingBalance, given | .amount, given | .sendMax, given | .sendAmount, given
  | .destinationAmount, given | .destinationMin, given | .buyAmount, given | .maxAmountA, given
  | .maxAmountB, given | .minAmountA, given | .minAmountB, given => some <$> given.toStroops
  | .limit, given => given.mapM StroopsSource.toStroops
  | .path, given => listed given
  | .claimants, given => listed given
  | .line, given => .ok given.toLine
  | .assetCode, given => some <$> given.toCode
  | .dataValue, given => given.toDataValue
  | .asset, given | .sendAsset, given | .destinationAsset, given | .selling, given
  | .buying, given => .ok given
  | .price, given | .minPrice, given | .maxPrice, given => .ok given
  | .offerId, given | .bumpTo, given | .masterWeight, given | .lowThreshold, given
  | .mediumThreshold, given | .highThreshold, given => .ok given
  | .clearAccountFlags, given | .setAccountFlags, given => .ok given
  | .authorize, given | .clearLineFlags, given | .setLineFlags, given => .ok given
  | .homeDomain, given | .dataName, given => .ok given
  | .signer, given => .ok given
  | .balanceId, given => .ok given
  | .revokeTarget, given => .ok given
  | .poolId, given => .ok given

end Field

end LedgerWire
