import LedgerWire.Catalogue.WireType

/-!
Contract: the types of values that tools name, with or without a wire form.

Owns:
- `ValueType`, the values of each type, and its name;
- the sameness, the order and the description of the values of a type;
- the number that a value is compared as with values of other types;
- which values can be keys.

Does not own: any of these by itself.
-/

namespace LedgerWire

inductive ValueType where
  | wire (type : WireType)
  | creditAsset
  | preAuthTxHash
  | hashX
  | signedPayload
  | secretKey
  | keyPair
  | network
  | stroops
  | amount
  | accountFlags
  | trustLineFlags
  | integer
  | text
  deriving DecidableEq

namespace ValueType

abbrev Carrier : ValueType → Type
  | wire type => type.Carrier
  | creditAsset => CreditAsset
  | preAuthTxHash => PreAuthTxHash
  | hashX => HashX
  | signedPayload => SignedPayload
  | secretKey | keyPair => SecretKey
  | network => Network
  | stroops => Stroops
  | amount => Amount
  | accountFlags => AccountFlags
  | trustLineFlags => TrustLineFlags
  | integer => Int
  | text => String

def all : List ValueType :=
  WireType.all.map wire ++ [
    creditAsset, preAuthTxHash, hashX, signedPayload, secretKey, keyPair, network, stroops, amount,
    accountFlags, trustLineFlags, integer, text]

def name : ValueType → String
  | wire type => type.name
  | creditAsset => "CreditAsset"
  | preAuthTxHash => "PreAuthTxHash"
  | hashX => "HashX"
  | signedPayload => "SignedPayload"
  | secretKey => "SecretKey"
  | keyPair => "KeyPair"
  | network => "Network"
  | stroops => "Stroops"
  | amount => "Amount"
  | accountFlags => "AccountFlags"
  | trustLineFlags => "TrustLineFlags"
  | integer => "Int"
  | text => "Text"

def ofName? (name : String) : Option ValueType :=
  all.find? (·.name == name)

def same : (type : ValueType) → type.Carrier → type.Carrier → Bool
  | wire type => type.same
  | creditAsset | preAuthTxHash | hashX | signedPayload => (· == ·)
  | secretKey | keyPair => (· == ·)
  | network => (· == ·)
  | stroops => (· == ·)
  | amount => fun a b => a.compare b == .eq
  | accountFlags => (· == ·)
  | trustLineFlags => (· == ·)
  | integer => (· == ·)
  | text => (· == ·)

/-- The order of the values of a type, if they have one. -/
def compare? : (type : ValueType) → Option (type.Carrier → type.Carrier → Ordering)
  | stroops => some (compare ·.value ·.value)
  | amount => some Amount.compare
  | accountFlags => some (compare ·.bits ·.bits)
  | trustLineFlags => some (compare ·.bits ·.bits)
  | integer => some compare
  | text => some compare
  | _ => none

/-- The plain number that a value is compared as with values of other types, if it is. -/
def number? : (type : ValueType) → type.Carrier → Option Int
  | accountFlags => fun flags => some flags.bits
  | trustLineFlags => fun flags => some flags.bits
  | integer => some
  | _ => fun _ => none

/-- Whether the result of an operation holds no list. -/
def isFlat (result : AppliedResult) : Bool :=
  match result.payload with
  | some (.path _) | some (.offer _) | some (.payouts _) => false
  | _ => true

/-- Whether a value can be a key: one that holds a list cannot. -/
def isKey : (type : ValueType) → type.Carrier → Bool
  | wire .pathPaymentSuccess, _ | wire .manageOfferSuccess, _ => false
  | wire .appliedResult, result => isFlat result
  | wire .operationResult, result => result.inner?.all isFlat
  | wire .innerTransactionResult, result => result.outcome.results?.isNone
  | wire .transactionResult, result =>
    match result.outcome with
    | .own outcome => outcome.results?.isNone
    | .feeBump _ _ inner => inner.outcome.results?.isNone
  | _, _ => true

def describe? : (type : ValueType) → Option (type.Carrier → String)
  | wire type => type.describe?
  | creditAsset => some CreditAsset.describe
  | preAuthTxHash => some PreAuthTxHash.describe
  | hashX => some HashX.describe
  | signedPayload => some SignedPayload.describe
  | secretKey => some SecretKey.describe
  | keyPair => some SecretKey.describePair
  | network => some Network.describe
  | stroops => some Stroops.describe
  | amount => some Amount.describe
  | _ => none

end ValueType

end LedgerWire
