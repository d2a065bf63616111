import LedgerWire.Proofs.Layout.Writable
import LedgerWire.Proofs.StrKey.Canonical

/-!
Contract: the address of an account is the account. A reader looks at the first letter of an
address, the key text beneath it at the version byte and the length, and the wire form at a number
of its own; all three tell the same accounts apart.

Owns:
- the first letter of each kind of key text;
- the texts that are read as a public key, as a key with a number and as an account;
- that accounts, their addresses and their wire forms are equal together.

Does not own: key texts of other kinds.
-/

namespace LedgerWire

open Wire Codec

/-! ### First letters -/

/-- The letter that opens the texts of a kind. -/
def StrKey.Kind.letter : StrKey.Kind → Char
  | .accountId => 'G'
  | .muxedAccount => 'M'
  | .secretSeed => 'S'
  | .preAuthTx => 'T'
  | .sha256Hash => 'X'

theorem StrKey.head?_encode (kind : StrKey.Kind) (payload : Bytes) :
    (StrKey.encode kind payload).toList.head? = some kind.letter := by
  rw [StrKey.encode_eq]
  unfold StrKey.spelled
  rw [List.cons_append, Base32.head?_encode]
  cases kind <;> rfl

/-! ### Keys -/

theorem PublicKey.ofBytes_eq_ok_iff {bytes : Bytes} {key : PublicKey} :
    PublicKey.ofBytes bytes = .ok key ↔ key.bytes = bytes := by
  unfold PublicKey.ofBytes
  constructor
  · intro made
    split_ifs at made
    cases made
    rfl
  · rintro rfl
    exact dif_pos key.key.length_eq

/-- A text is read as a public key just if it is the text of this key. -/
theorem PublicKey.ofAccountId_eq_ok_iff {text : String} {key : PublicKey} :
    PublicKey.ofAccountId text = .ok key ↔ key.accountId = text := by
  unfold PublicKey.ofAccountId
  simp only [Outcome.bind_eq_ok_iff, StrKey.decode_eq_ok_iff, PublicKey.ofBytes_eq_ok_iff]
  constructor
  · rintro ⟨payload, ⟨length, rfl⟩, rfl⟩
    rfl
  · rintro rfl
    exact ⟨key.bytes, ⟨key.key.length_eq, rfl⟩, rfl⟩

/-- A text is read as a key with a number just if it is the text of these. -/
theorem MuxedKey.ofAddress_eq_ok_iff {text : String} {muxed : MuxedKey} :
    MuxedKey.ofAddress text = .ok muxed ↔ muxed.address = text := by
  have written {key : Bytes} {id : Nat} (below : id < 2 ^ 64) :
      StrKey.encodeMuxed? key id = .ok (StrKey.encodeMuxed key id) := by
    have fits : (0 : Int) ≤ id ∧ (id : Int) < 2 ^ 64 := by omega
    exact if_pos fits
  unfold MuxedKey.ofAddress
  simp only [Outcome.bind_eq_ok_iff]
  constructor
  · rintro ⟨⟨bytes, id⟩, decoded, key, made, put⟩
    rcases StrKey.decodeMuxed_eq_ok_iff.mp decoded with ⟨-, encoded⟩
    obtain rfl := PublicKey.ofBytes_eq_ok_iff.mp made
    unfold MuxedKey.make at put
    split_ifs at put with fits
    cases put
    rw [written (by omega)] at encoded
    exact Except.ok.inj encoded
  · rintro rfl
    have fits : (0 : Int) ≤ muxed.id ∧ (muxed.id : Int) < 2 ^ 64 := by
      have below := muxed.id_lt
      omega
    refine ⟨(muxed.key.bytes, muxed.id), ?_, muxed.key, PublicKey.ofBytes_eq_ok_iff.mpr rfl, ?_⟩
    · exact StrKey.decodeMuxed_eq_ok_iff.mpr ⟨muxed.key.key.length_eq, written muxed.id_lt⟩
    · unfold MuxedKey.make
      rw [dif_pos fits]
      rfl

/-! ### Accounts -/

namespace MuxedAccount

/-- The letter that opens the address of an account. -/
def letter : MuxedAccount → Char
  | .plain _ => 'G'
  | .muxed _ => 'M'

theorem head?_address (account : MuxedAccount) :
    account.address.toList.head? = some account.letter := by
  cases account with
  | plain key => exact StrKey.head?_encode .accountId _
  | muxed key => exact StrKey.head?_encode .muxedAccount _

/-- A text is read as an account just if it is the address of this account. -/
theorem ofAddress_eq_ok_iff {text : String} {account : MuxedAccount} :
    ofAddress text = .ok account ↔ account.address = text := by
  unfold ofAddress
  by_cases opens : text.toList.head? = some 'M'
  · rw [if_pos opens, Outcome.map_eq_ok_iff]
    simp only [MuxedKey.ofAddress_eq_ok_iff]
    constructor
    · rintro ⟨key, rfl, rfl⟩
      rfl
    · rintro rfl
      cases account with
      | plain key =>
        rw [head?_address] at opens
        cases opens
      | muxed key => exact ⟨key, rfl, rfl⟩
  · rw [if_neg opens, Outcome.map_eq_ok_iff]
    simp only [PublicKey.ofAccountId_eq_ok_iff]
    constructor
    · rintro ⟨key, rfl, rfl⟩
      rfl
    · rintro rfl
      cases account with
      | plain key => exact ⟨key, rfl, rfl⟩
      | muxed key => exact absurd (head?_address _) opens

theorem address_injective {a b : MuxedAccount} (same : a.address = b.address) : a = b := by
  have left := ofAddress_eq_ok_iff.mpr same
  have right := ofAddress_eq_ok_iff.mpr (rfl : b.address = b.address)
  exact Except.ok.inj (left.symm.trans right)

theorem encode_injective {a b : MuxedAccount} (same : codec.encode a = codec.encode b) : a = b := by
  rcases exists_encode_iff.mpr b.writable_codec with ⟨bytes, right⟩
  have left := same.trans right
  exact faithful_codec.same_of_write (encode_eq_ok_iff.mp left) (encode_eq_ok_iff.mp right)

/-- The key of an account: the one with its number, if it has one. -/
def ownKey : MuxedAccount → AccountSource
  | .plain key => .key key
  | .muxed key => .muxedKey key

/-- An account is read back from its address, which begins with `M` just if it has a number and with
`G` otherwise, and from no other text. Accounts are equal just if their addresses are, and just if
their wire forms are, of which each has one. Wherever an account is wanted, the account itself, its
key and its address give the same account. -/
theorem address_faithful :
    (∀ text account, ofAddress text = .ok account ↔ account.address = text) ∧
    (∀ account : MuxedAccount,
      account.address.toList.head? = some (if account.muxedKey?.isSome then 'M' else 'G')) ∧
    (∀ a b : MuxedAccount, (a.address = b.address ↔ a = b) ∧
      (codec.encode a = codec.encode b ↔ a = b)) ∧
    (∀ account : MuxedAccount, ∃ bytes, codec.encode account = .ok bytes) ∧
    ∀ account : MuxedAccount, ∀ source ∈ [.account account, account.ownKey, .text account.address],
      source.toAccount = .ok account := by
  refine ⟨fun _ _ => ofAddress_eq_ok_iff, ?_, ?_, ?_, ?_⟩
  · intro account
    rw [head?_address]
    cases account <;> rfl
  · intro a b
    constructor
    · exact ⟨address_injective, congrArg address⟩
    · exact ⟨encode_injective, congrArg codec.encode⟩
  · intro account
    exact exists_encode_iff.mpr account.writable_codec
  · intro account source member
    simp only [List.mem_cons, List.not_mem_nil, or_false] at member
    rcases member with rfl | rfl | rfl
    · rfl
    · cases account <;> rfl
    · exact ofAddress_eq_ok_iff.mpr rfl

/-- With the number zero an account is another one than its bare key is, and has another address. -/
theorem address_faithful_zeroNumber :
    let key : PublicKey := ⟨⟨List.replicate 32 0, rfl⟩⟩
    let account : MuxedAccount := .muxed ⟨key, 0, by decide⟩
    ofAddress account.address = .ok account ∧ account.address.toList.head? = some 'M' ∧
      account.address ≠ (plain key).address ∧
      (AccountSource.text account.address).toAccount = .ok account := by
  intro key account
  rcases address_faithful with ⟨reads, letters, equal, -, sources⟩
  have different : account ≠ plain key := by decide
  have given : AccountSource.text
      account.address ∈ [.account account, account.ownKey, .text account.address] := by
    simp
  exact ⟨(reads _ account).mpr rfl, letters account, mt (equal account (plain key)).1.mp different,
    sources account _ given⟩

end MuxedAccount

end LedgerWire
