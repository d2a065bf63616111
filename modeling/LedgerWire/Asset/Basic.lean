import LedgerWire.Keys.PublicKey
import LedgerWire.Text.Ascii

/-!
Contract: assets: the native one, and credit, which is a code with the key that issues it. A code of
up to four characters and a longer one have different numbers and widths on the wire.

Owns:
- `AssetCode`, its width and its wire form;
- `CreditAsset` and `Asset` with their wire forms.

Does not own: shares of liquidity pools, which stand in `Asset.Pool`.
-/

namespace LedgerWire

open Wire

namespace AssetCode

/-- What every code keeps: one to twelve ASCII characters, none of them NUL. -/
def Proper (bytes : Bytes) : Prop :=
  (1 ≤ bytes.length ∧ bytes.length ≤ 12) ∧ ∀ b ∈ bytes, 1 ≤ b ∧ b < 0x80

instance (bytes : Bytes) : Decidable (Proper bytes) :=
  inferInstanceAs (Decidable (_ ∧ _))

end AssetCode

/-- The code of a credit asset. -/
structure AssetCode where
  bytes : Bytes
  proper : AssetCode.Proper bytes
  deriving DecidableEq

namespace AssetCode

def text (code : AssetCode) : String :=
  String.ofList (code.bytes.map fun b => Char.ofNat b.toNat)

def invalid (given : Detail) : Failure :=
  Failure.withDetail .invalidAssetCode "code" given

def ofText (text : String) : Except Failure AssetCode :=
  match Text.Ascii.encode? text with
  | none => .error (invalid (.text text))
  | some bytes =>
    if h : Proper bytes then .ok ⟨bytes, h⟩ else .error (invalid (.text text))

/-- The number of the form of a code: one up to four characters, two from five on. -/
def formNumber (code : AssetCode) : Int := if code.bytes.length ≤ 4 then 1 else 2

def widthOf (form : Int) : Nat := if form = 1 then 4 else 12

/-- The code filled up with zero bytes to the width of its form. -/
def padded (code : AssetCode) : Bytes :=
  code.bytes ++ List.replicate (widthOf code.formNumber - code.bytes.length) 0

/-- The code in a field of the given form: what comes before the first zero byte. Only zero bytes
may follow, and the code must have that form. -/
def ofField (form : Int) (field : Bytes) : Except Failure AssetCode := do
  let bytes := field.takeWhile (· != 0)
  if (field.drop bytes.length).any (· != 0) then
    throw (Failure.xdr "asset code has bytes after the terminator")
  match Text.Ascii.decode bytes with
  | .error foreign => throw (Failure.because .invalidAssetCode foreign.message)
  | .ok text =>
    let code ← ofText text
    if code.formNumber = form then
      return code
    else
      throw (Failure.xdr s!"asset code {Text.quoted text} does not match asset type {form}")

def codec (form : Int) : Codec AssetCode :=
  (Codec.bytesExactly (widthOf form)).refine (ofField form) padded

end AssetCode

structure CreditAsset where
  code : AssetCode
  issuer : PublicKey
  deriving DecidableEq

namespace CreditAsset

def describe (asset : CreditAsset) : String :=
  s!"CreditAsset('{asset.code.text}', {asset.issuer.accountId})"

/-- The wire form of assets whose code has the form of a number. -/
def codec (form : Int) : Codec CreditAsset :=
  ((AssetCode.codec form).pair PublicKey.codec).convert
    (fun parts => ⟨parts.1, parts.2⟩)
    (fun asset => (asset.code, asset.issuer))

end CreditAsset

inductive Asset where
  | native
  | credit (asset : CreditAsset)
  deriving DecidableEq

namespace Asset

def ofCode (code : String) (issuer : PublicKey) : Except Failure Asset := do
  return .credit ⟨← AssetCode.ofText code, issuer⟩

/-- The number of an asset's form on the wire. -/
def formNumber : Asset → Int
  | .native => 0
  | .credit asset => asset.code.formNumber

def describe : Asset → String
  | .native => "Asset.new_native()"
  | .credit asset => s!"Asset.new_credit('{asset.code.text}', {asset.issuer.describe})"

def forms (form : Int) : Option (Codec Asset) :=
  if form = 0 then
    some (Codec.nothing.arm (fun _ => .native) fun | .native => some () | .credit _ => none)
  else if form = 1 || form = 2 then
    some ((CreditAsset.codec form).arm .credit fun | .native => none | .credit asset => some asset)
  else
    none

def codec : Codec Asset :=
  Codec.union Codec.int32 formNumber forms
    (fun form => Failure.xdr s!"unknown asset type: {form}")

end Asset

end LedgerWire
