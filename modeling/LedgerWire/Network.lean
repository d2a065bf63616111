import LedgerWire.Fault
import LedgerWire.Hash.Sha2
import LedgerWire.Text.Utf8
import LedgerWire.Wire.Codec

/-!
Contract: networks, told apart by their passphrases. What is signed opens with the hash of the
passphrase, so a signature for one network is none for another.

Owns:
- `Network`, its id, and the two networks known by name.

Does not own: what is signed after the id.
-/

namespace LedgerWire

/-- A network, by its passphrase, which is not empty. -/
structure Network where
  passphrase : String
  deriving DecidableEq

namespace Network

def publicNetwork : Network := ⟨"Public Global Stellar Network ; September 2015"⟩

def testNetwork : Network := ⟨"Test SDF Network ; September 2015"⟩

def invalidPassphrase : Failure :=
  .fault (Fault.of .invalidNetworkId "network passphrase must be a non-empty string" [] none)

def ofPassphrase (passphrase : String) : Except Failure Network :=
  if passphrase.isEmpty then .error invalidPassphrase else .ok ⟨passphrase⟩

def id (network : Network) : FixedBytes 32 :=
  ⟨sha256 (Text.Utf8.encode network.passphrase), length_sha256 _⟩

def describe (network : Network) : String := s!"Network('{network.passphrase}')"

end Network

end LedgerWire
