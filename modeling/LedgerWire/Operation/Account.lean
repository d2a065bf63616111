import LedgerWire.Account.DataValue
import LedgerWire.Account.Flags
import LedgerWire.Account.Signer
import LedgerWire.Stroops

/-!
Contract: operations on an account itself: its creation, its options and the data it keeps.

Owns:
- `CreateAccount`, `SetOptions` and `ManageData` with their wire forms;
- the limits on home domains and on names of data.

Does not own: operations whose whole content is a value of another module.
-/

namespace LedgerWire

open Wire

/-- Creates an account with a balance. -/
structure CreateAccount where
  destination : PublicKey
  startingBalance : Stroops
  deriving DecidableEq

def CreateAccount.codec : Codec CreateAccount :=
  (PublicKey.codec.pair Stroops.codec).convert
    (fun parts => ⟨parts.1, parts.2⟩)
    (fun body => (body.destination, body.startingBalance))

/-- Changes those options of an account that are stated. -/
structure SetOptions where
  inflationDestination : Option PublicKey
  clearFlags : Option AccountFlags
  setFlags : Option AccountFlags
  masterWeight : Option Int
  lowThreshold : Option Int
  mediumThreshold : Option Int
  highThreshold : Option Int
  homeDomain : Option String
  signer : Option Signer
  deriving DecidableEq

namespace SetOptions

def maxHomeDomainSize : Nat := 32

def codec : Codec SetOptions :=
  (PublicKey.codec.optional.pair <|
    AccountFlags.codec.optional.pair <|
    AccountFlags.codec.optional.pair <|
    Codec.uint32.optional.pair <|
    Codec.uint32.optional.pair <|
    Codec.uint32.optional.pair <|
    Codec.uint32.optional.pair <|
    (Codec.text (some maxHomeDomainSize)).optional.pair
      Signer.codec.optional).convert
    (fun (destination, clear, set, master, low, medium, high, domain, signer) =>
      ⟨destination, clear, set, master, low, medium, high, domain, signer⟩)
    (fun body =>
      (body.inflationDestination, body.clearFlags, body.setFlags, body.masterWeight,
        body.lowThreshold, body.mediumThreshold, body.highThreshold, body.homeDomain, body.signer))

end SetOptions

/-- Keeps a value under a name, or drops what is kept under it. -/
structure ManageData where
  name : String
  value : Option DataValue
  deriving DecidableEq

namespace ManageData

def maxNameSize : Nat := 64

def codec : Codec ManageData :=
  ((Codec.text (some maxNameSize)).pair DataValue.codec.optional).convert
    (fun parts => ⟨parts.1, parts.2⟩)
    (fun body => (body.name, body.value))

end ManageData

end LedgerWire
