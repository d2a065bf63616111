import LedgerWire.Proofs.Bytes.Base32
import LedgerWire.Proofs.Outcome
import LedgerWire.Proofs.Text.Ascii
import LedgerWire.Proofs.Wire.Number
import LedgerWire.StrKey

/-!
Contract: key texts are read exactly as they are written. A text that is read as a key of some kind
is the text of its payload, and the text of a key of another kind is refused for its kind, after
length and checksum were found right.

Owns:
- `StrKey.Kind.payloadLength`;
- the texts that `StrKey.decode` and `StrKey.decodeMuxed` accept, and the refusal of another kind.

Does not own: texts that are no key's; which misspellings are noticed.
-/

namespace LedgerWire.StrKey

/-- The number of bytes that a key text of a kind stands for: a key or hash, with a number before
the key of a muxed account. -/
def Kind.payloadLength : Kind → Nat
  | .muxedAccount => 40
  | .accountId | .secretSeed | .preAuthTx | .sha256Hash => 32

theorem Kind.version_injective {kind other : Kind} (same : kind.version = other.version) :
    kind = other := by
  cases kind <;> cases other <;> first | rfl | cases same

theorem expectedLength_version (kind : Kind) :
    expectedLength kind.version = kind.payloadLength + 3 := by
  cases kind <;> rfl

@[simp] theorem length_littleEndian (bytes : Bytes) : (Crc16.littleEndian bytes).length = 2 :=
  Bytes.length_ofNatLE 2 _

theorem decodeCanonical_eq_ok_iff {text : String} {bytes : Bytes} :
    decodeCanonical text = .ok bytes ↔ text = Base32.encode bytes := by
  constructor
  · intro decoded
    unfold decodeCanonical at decoded
    split at decoded
    · cases decoded
    · split at decoded
      · cases decoded
      · split_ifs at decoded with spelling
        cases decoded
        exact spelling.symm
  · rintro rfl
    simp only [decodeCanonical, Text.Ascii.foreignRun?_of_ascii (Base32.encode_ascii bytes),
      Base32.decode_encode, if_true]

/-- The bytes that the text of a payload spells. -/
def spelled (kind : Kind) (payload : Bytes) : Bytes :=
  kind.version :: payload ++ Crc16.littleEndian (kind.version :: payload)

theorem encode_eq (kind : Kind) (payload : Bytes) :
    encode kind payload = Base32.encode (spelled kind payload) :=
  rfl

theorem length_spelled (kind : Kind) (payload : Bytes) :
    (spelled kind payload).length = payload.length + 3 := by
  simp [spelled]

/-- The text of a payload passes the checks of length and checksum, and is then read if its kind is
the wanted one. -/
theorem decode_encode (kind : Kind) {other : Kind} {payload : Bytes}
    (length : payload.length = other.payloadLength) :
    decode kind (encode other payload) =
      if other = kind then .ok payload
      else .error (.fault (Fault.of .invalidStrKeyVersion ""
        [("expected", .number kind.version.toNat), ("actual", .number other.version.toNat)]
        none)) := by
  have decoded : decodeCanonical (encode other payload) = .ok (spelled other payload) :=
    decodeCanonical_eq_ok_iff.mpr rfl
  have whole : (spelled other payload).length = expectedLength other.version := by
    rw [length_spelled, length, expectedLength_version]
  have split : (spelled other payload).length - 2 = (other.version :: payload).length := by
    rw [length_spelled, List.length_cons]
    omega
  have front : (spelled other payload).take ((spelled other payload).length - 2) =
      other.version :: payload := by
    rw [split, spelled, List.take_left]
  have back : (spelled other payload).drop ((spelled other payload).length - 2) =
      Crc16.littleEndian (other.version :: payload) := by
    rw [split, spelled, List.drop_left]
  have sameVersion : other.version = kind.version ↔ other = kind :=
    ⟨Kind.version_injective, congrArg Kind.version⟩
  rw [decode, decoded]
  change (if (spelled other payload).length ≠ expectedLength other.version then _ else _) = _
  rw [if_neg (not_not.mpr whole)]
  rw [if_neg (by rw [front, back]; simp)]
  change (if other.version ≠ kind.version then _ else _) = _
  rw [front]
  by_cases same : other = kind
  · rw [if_neg (by simp [same]), if_pos same]
    rfl
  · rw [if_pos (mt sameVersion.mp same), if_neg same]
    rfl

theorem eq_encode_of_decode {kind : Kind} {text : String} {payload : Bytes}
    (decoded : decode kind text = .ok payload) :
    payload.length = kind.payloadLength ∧ text = encode kind payload := by
  rw [decode, Outcome.bind_eq_ok_iff] at decoded
  obtain ⟨bytes, canonical, checked⟩ := decoded
  cases bytes with
  | nil => cases checked
  | cons version rest =>
    simp only [Outcome.check_eq_ok_iff, Outcome.pure_eq_ok_iff, not_not] at checked
    obtain ⟨whole, checksum, rfl, rfl⟩ := checked
    have split : (kind.version :: rest).length - 2 = kind.payloadLength + 1 := by
      rw [whole, expectedLength_version]
      omega
    rw [split, List.take_succ_cons] at checksum
    rw [split, List.take_succ_cons, List.drop_one, List.tail_cons]
    refine ⟨?_, ?_⟩
    · rw [expectedLength_version, List.length_cons] at whole
      rw [List.length_take]
      omega
    · rw [decodeCanonical_eq_ok_iff.mp canonical, encode_eq, spelled, checksum,
        ← List.take_succ_cons, List.take_append_drop]

/-! ### All kinds -/

theorem decode_eq_ok_iff {kind : Kind} {text : String} {payload : Bytes} :
    decode kind text = .ok payload ↔ payload.length = kind.payloadLength ∧
      text = encode kind payload := by
  constructor
  · exact eq_encode_of_decode
  · rintro ⟨length, rfl⟩
    rw [decode_encode kind length, if_pos rfl]

/-- A number of 64 bits and a key of 32 bytes stand side by side in the payload of a muxed
account. -/
theorem decodeMuxed_eq_ok_iff {text : String} {key : Bytes} {id : Nat} :
    decodeMuxed text = .ok (key, id) ↔ key.length = 32 ∧ encodeMuxed? key id = .ok text := by
  have written : encodeMuxed? key id = .ok text ↔ id < 2 ^ 64 ∧ text = encodeMuxed key id := by
    rw [encodeMuxed?]
    split_ifs with fits
    · simp only [Except.ok.injEq, Int.toNat_natCast]
      constructor
      · intro same
        exact ⟨by omega, same.symm⟩
      · intro parts
        exact parts.2.symm
    · simp only [false_iff]
      omega
  rw [written, decodeMuxed]
  simp only [Outcome.bind_eq_ok_iff, Outcome.pure_eq_ok_iff, decode_eq_ok_iff, Prod.mk.injEq]
  constructor
  · rintro ⟨payload, ⟨length, rfl⟩, rfl, rfl⟩
    have idLength : (payload.take 8).length = 8 := by
      rw [List.length_take, length]
      rfl
    have keyLength : (payload.drop 8).length = 32 := by
      rw [List.length_drop, length]
      rfl
    refine ⟨keyLength, ?_, ?_⟩
    · have below := Bytes.toNatBE_lt (payload.take 8)
      rwa [idLength] at below
    · have spelledId := Bytes.ofNatBE_toNatBE (payload.take 8)
      rw [idLength] at spelledId
      rw [encodeMuxed, spelledId, List.take_append_drop]
  · rintro ⟨keyLength, below, rfl⟩
    refine ⟨Bytes.ofNatBE 8 id ++ key, ⟨by simp [keyLength, Kind.payloadLength], rfl⟩, ?_, ?_⟩
    · rw [List.drop_left' (Bytes.length_ofNatBE 8 id)]
    · rw [List.take_left' (Bytes.length_ofNatBE 8 id), Bytes.toNatBE_ofNatBE,
        Nat.mod_eq_of_lt (show id < 256 ^ 8 by omega)]

/-- A text is read as a key of some kind exactly if it is the text of a payload of the right length;
so what was written is read back, and what is read is written the same again, in muxed form too. The
text of a key of another kind is refused with the version byte that it has. A text spells version,
payload and checksum in characters of five bits each, with fewer than five zero bits at the end. -/
theorem decode_iff_encode :
    (∀ kind text payload, decode kind text = .ok payload ↔
      payload.length = kind.payloadLength ∧ text = encode kind payload) ∧
    (∀ text key id, decodeMuxed text = .ok (key, id) ↔
      key.length = 32 ∧ encodeMuxed? key (id : Nat) = .ok text) ∧
    (∀ key id, 0 ≤ id → id < 2 ^ 64 → encodeMuxed? key id = .ok (encodeMuxed key id.toNat)) ∧
    (∀ kind other payload, payload.length = other.payloadLength → other ≠ kind →
      ∃ failure, failure = Failure.fault (Fault.of .invalidStrKeyVersion ""
          [("expected", .number kind.version.toNat), ("actual", .number other.version.toNat)]
          none) ∧
        decode kind (encode other payload) = .error failure ∧
        (kind = .muxedAccount → decodeMuxed (encode other payload) = .error failure)) ∧
    (∀ kind payload, ∃ digits filled, (encode kind payload).toList = digits.map Base32.digitChar ∧
      (∀ digit ∈ digits, digit < 32) ∧ filled < 5 ∧
        bitsOf 5 digits = Bytes.bits (kind.version :: payload ++
          Crc16.littleEndian (kind.version :: payload)) ++ List.replicate filled false) := by
  refine ⟨fun _ _ _ => decode_eq_ok_iff, fun _ _ _ => decodeMuxed_eq_ok_iff, ?_, ?_, ?_⟩
  · intro key id least below
    rw [encodeMuxed?, if_pos ⟨least, below⟩]
  · intro kind other payload length otherKind
    have refused := decode_encode kind length
    rw [if_neg otherKind] at refused
    refine ⟨_, rfl, refused, ?_⟩
    rintro rfl
    rw [decodeMuxed, refused]
    rfl
  · intro kind payload
    exact Base32.exists_digits_encode (spelled kind payload)

/-- The greatest number in front of a key: read back as a muxed account, and refused as a seed. -/
theorem decode_iff_encode_greatestId :
    ∃ text failure, encodeMuxed? (List.replicate 32 7) (2 ^ 64 - 1 : Nat) = .ok text ∧
      decodeMuxed text = .ok (List.replicate 32 7, 2 ^ 64 - 1) ∧
      decode .secretSeed text = .error failure ∧
      failure = .fault (Fault.of .invalidStrKeyVersion ""
        [("expected", .number 144), ("actual", .number 96)] none) := by
  obtain ⟨-, muxed, encoded, refused, -⟩ := decode_iff_encode
  have written := encoded (List.replicate 32 7) (2 ^ 64 - 1 : Nat) (by decide) (by decide)
  obtain ⟨failure, worded, refusedSeed, -⟩ := refused .secretSeed .muxedAccount
    (Bytes.ofNatBE 8 (2 ^ 64 - 1) ++ List.replicate 32 7) (by decide) (by decide)
  exact ⟨_, failure, written, (muxed _ _ _).mpr ⟨rfl, written⟩, refusedSeed, worded⟩

end LedgerWire.StrKey
