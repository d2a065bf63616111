import LedgerWire.Keys.PublicKey

/-!
Contract: accounts as sources and destinations: a public key, or a public key with a 64-bit number
that tells users of one key apart. A number of zero is a number too.

Owns:
- `MuxedKey` and `MuxedAccount`, their text and wire forms;
- `AccountSource`, everything a caller may give where an account is wanted.

Does not own: keys.
-/

namespace LedgerWire

open Wire

/-- A public key with a number. -/
structure MuxedKey where
  key : PublicKey
  id : Nat
  id_lt : id < 2 ^ 64

namespace MuxedKey

instance : DecidableEq MuxedKey := fun a b =>
  decidable_of_iff (a.key = b.key ∧ a.id = b.id)
    ⟨fun ⟨hk, hi⟩ => by cases a; cases b; cases hk; cases hi; rfl,
      fun h => ⟨congrArg key h, congrArg id h⟩⟩

def idOutOfRange (id : Int) : Failure :=
  .fault (Fault.of .invalidPublicKey s!"muxed account id out of range: {id}" [] none)

/-- A key and a number put together. -/
def make (key : PublicKey) (id : Int) : Except Failure MuxedKey :=
  if h : 0 ≤ id ∧ id < 2 ^ 64 then .ok ⟨key, id.toNat, by omega⟩
  else .error (idOutOfRange id)

def ofAddress (address : String) : Except Failure MuxedKey := do
  let (key, id) ← StrKey.decodeMuxed address
  make (← PublicKey.ofBytes key) id

def address (muxed : MuxedKey) : String := StrKey.encodeMuxed muxed.key.bytes muxed.id

def describe (muxed : MuxedKey) : String :=
  s!"MuxedEd25519PublicKey.from_account_id('{muxed.address}')"

def codec : Codec MuxedKey :=
  (Codec.uint64.pair PublicKey.bareCodec).refine
    (fun parts => make parts.2 parts.1)
    (fun muxed => ((muxed.id : Int), muxed.key))

end MuxedKey

/-- An account that pays or is paid. -/
inductive MuxedAccount where
  | plain (key : PublicKey)
  | muxed (key : MuxedKey)
  deriving DecidableEq

namespace MuxedAccount

def publicKey : MuxedAccount → PublicKey
  | .plain key => key
  | .muxed account => account.key

def id? : MuxedAccount → Option Nat
  | .plain _ => none
  | .muxed key => some key.id

/-- The key with its number, of an account that has one. -/
def muxedKey? : MuxedAccount → Option MuxedKey
  | .plain _ => none
  | .muxed key => some key

def address : MuxedAccount → String
  | .plain key => key.accountId
  | .muxed key => key.address

/-- The account of an address: the first letter tells which of the two forms it is. -/
def ofAddress (address : String) : Except Failure MuxedAccount :=
  if address.toList.head? = some 'M' then
    MuxedAccount.muxed <$> MuxedKey.ofAddress address
  else
    MuxedAccount.plain <$> PublicKey.ofAccountId address

def describe (account : MuxedAccount) : String :=
  s!"MuxedAccount.from_account_id('{account.address}')"

def formNumber : MuxedAccount → Int
  | .plain _ => 0
  | .muxed _ => 256

def forms (form : Int) : Option (Codec MuxedAccount) :=
  if form = 0 then
    some (PublicKey.bareCodec.arm .plain fun | .plain key => some key | .muxed _ => none)
  else if form = 256 then
    some (MuxedKey.codec.arm .muxed fun | .plain _ => none | .muxed key => some key)
  else
    none

def codec : Codec MuxedAccount :=
  Codec.union Codec.int32 formNumber forms
    (fun form => Failure.xdr s!"unknown crypto key type: {form}")

end MuxedAccount

/-- What a caller may give where an account is wanted. -/
inductive AccountSource where
  | account (value : MuxedAccount)
  | muxedKey (value : MuxedKey)
  | key (value : PublicKey)
  | text (value : String)
  | foreign (value : ForeignValue)

/-- The account that was given: a text as an address. -/
def AccountSource.toAccount : AccountSource → Except Failure MuxedAccount
  | .account value => .ok value
  | .muxedKey value => .ok (.muxed value)
  | .key value => .ok (.plain value)
  | .text value => MuxedAccount.ofAddress value
  | .foreign value =>
    .error (.fault (Fault.of .invalidPublicKey
      s!"cannot convert {value.name} to MuxedAccount" [] none))

end LedgerWire
