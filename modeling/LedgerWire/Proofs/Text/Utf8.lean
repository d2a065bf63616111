import Mathlib.Tactic
import LedgerWire.Text.Utf8

/-!
Contract: writing and reading UTF-8 are inverse to each other, so every text has one spelling and
every accepted byte string is the spelling of its text.

Owns:
- `Utf8.Spells`, what a lead byte and the bytes after it spell, and its agreement with `encodeChar`;
- `Utf8.decode_encode` and `Utf8.encode_of_decode`.

Does not own: what is said of bytes that spell no text.
-/

namespace LedgerWire.Text.Utf8

/-! ### Bytes and characters of a known value -/

private theorem byte_eq {n : Nat} {b : UInt8} (same : n = b.toNat) : UInt8.ofNat n = b := by
  rw [same, UInt8.ofNat_toNat]

private theorem toNat_byte {n : Nat} (small : n < 256) : (UInt8.ofNat n).toNat = n :=
  UInt8.toNat_ofNat_of_lt' small

private theorem toNat_char {n : Nat} (valid : n.isValidChar) : (Char.ofNat n).toNat = n := by
  rw [Char.ofNat, dif_pos valid]
  rfl

private theorem encodeChar_one {n : Nat} (a : UInt8) (valid : n.isValidChar) (atMost : n < 0x80)
    (first : n = a.toNat) : encodeChar (Char.ofNat n) = [a] := by
  simp only [encodeChar, toNat_char valid]
  rw [if_pos atMost, byte_eq first]

private theorem encodeChar_two {n : Nat} (a b : UInt8) (valid : n.isValidChar)
    (atLeast : 0x80 ≤ n) (atMost : n < 0x800) (first : 0xC0 + n / 64 = a.toNat)
    (second : 0x80 + n % 64 = b.toNat) : encodeChar (Char.ofNat n) = [a, b] := by
  simp only [encodeChar, toNat_char valid]
  rw [if_neg (by omega), if_pos atMost, byte_eq first, byte_eq second]

private theorem encodeChar_three {n : Nat} (a b c : UInt8) (valid : n.isValidChar)
    (atLeast : 0x800 ≤ n) (atMost : n < 0x10000) (first : 0xE0 + n / 4096 = a.toNat)
    (second : 0x80 + n / 64 % 64 = b.toNat) (third : 0x80 + n % 64 = c.toNat) :
    encodeChar (Char.ofNat n) = [a, b, c] := by
  simp only [encodeChar, toNat_char valid]
  rw [if_neg (by omega), if_neg (by omega), if_pos atMost, byte_eq first, byte_eq second,
    byte_eq third]

private theorem encodeChar_four {n : Nat} (a b c d : UInt8) (valid : n.isValidChar)
    (atLeast : 0x10000 ≤ n) (first : 0xF0 + n / 262144 = a.toNat)
    (second : 0x80 + n / 4096 % 64 = b.toNat) (third : 0x80 + n / 64 % 64 = c.toNat)
    (fourth : 0x80 + n % 64 = d.toNat) : encodeChar (Char.ofNat n) = [a, b, c, d] := by
  simp only [encodeChar, toNat_char valid]
  rw [if_neg (by omega), if_neg (by omega), if_neg (by omega), byte_eq first, byte_eq second,
    byte_eq third, byte_eq fourth]

/-! ### Lead bytes -/

private theorem announce?_one {n : Nat} (small : n < 0x80) :
    announce? (UInt8.ofNat n) = some (n, []) := by
  simp only [announce?, toNat_byte (show n < 256 by omega), if_pos small]

private theorem announce?_two {k : Nat} (atLeast : 2 ≤ k) (atMost : k < 32) :
    announce? (UInt8.ofNat (0xC0 + k)) = some (k, [(0x80, 0xBF)]) := by
  interval_cases k <;> rfl

/-- Lead bytes of three: the second byte is in a narrower range where the value would be overlong or
a surrogate. -/
private theorem announce?_three {k : Nat} (atMost : k < 16) :
    announce? (UInt8.ofNat (0xE0 + k)) =
      some (k, [(if k = 0 then 0xA0 else 0x80, if k = 13 then 0x9F else 0xBF), (0x80, 0xBF)]) := by
  interval_cases k <;> rfl

/-- Lead bytes of four: the second byte is in a narrower range where the value would be overlong or
past the last code point. -/
private theorem announce?_four {k : Nat} (atMost : k ≤ 4) :
    announce? (UInt8.ofNat (0xF0 + k)) =
      some (k, [(if k = 0 then 0x90 else 0x80, if k = 4 then 0x8F else 0xBF), (0x80, 0xBF),
        (0x80, 0xBF)]) := by
  interval_cases k <;> rfl

/-! ### Continuation bytes -/

theorem continuation_nil_eq_ok {value taken : Nat} {rest : Bytes} {result : Nat × Bytes} :
    continuation value taken [] rest = .ok result ↔ result = (value, rest) := by
  simp [continuation, eq_comm]

theorem continuation_cons_eq_ok
    {value taken low high : Nat}
    {ranges : List (Nat × Nat)}
    {rest : Bytes}
    {result : Nat × Bytes} :
    continuation value taken ((low, high) :: ranges) rest = .ok result ↔
      ∃ b after, rest = b :: after ∧ low ≤ b.toNat ∧ b.toNat ≤ high ∧
        continuation (value * 64 + b.toNat % 64) (taken + 1) ranges after = .ok result := by
  cases rest with
  | nil => simp [continuation]
  | cons b after =>
    by_cases inRange : low ≤ b.toNat ∧ b.toNat ≤ high
    · simp [continuation, inRange]
    · have outside : ¬ (decide (low ≤ b.toNat) && decide (b.toNat ≤ high)) = true := by
        simpa using inRange
      rw [continuation, if_neg outside]
      simp only [reduceCtorEq, List.cons.injEq, false_iff, not_exists, not_and]
      intro first others same atLeast atMost
      obtain ⟨rfl, rfl⟩ := same
      exact absurd ⟨atLeast, atMost⟩ inRange

/-! ### One character -/

/-- A lead byte and as many bytes after it as it announces spell a value, and leave the rest. -/
def Spells (lead : UInt8) (after : Bytes) (value : Nat) (rest : Bytes) : Prop :=
  ∃ bits ranges, announce? lead = some (bits, ranges) ∧
    continuation bits 0 ranges after = .ok (value, rest)

/-- Only characters are spelled, and only by their own bytes. -/
theorem eq_encodeChar_of_spells {lead : UInt8} {after rest : Bytes} {value : Nat}
    (spells : Spells lead after value rest) :
    lead :: after = encodeChar (Char.ofNat value) ++ rest := by
  obtain ⟨bits, ranges, announced, continued⟩ := spells
  have leadLt := lead.toNat_lt
  -- One case for each row of lead bytes; the ranges of the row bound the value.
  simp only [announce?] at announced
  split_ifs at announced <;> simp only [Option.some.injEq, Prod.mk.injEq] at announced <;>
    obtain ⟨rfl, rfl⟩ := announced <;>
    simp only [continuation_cons_eq_ok, continuation_nil_eq_ok, Prod.mk.injEq] at continued
  case pos =>
    obtain ⟨rfl, rfl⟩ := continued
    rw [encodeChar_one lead (Or.inl (by omega)) (by omega) rfl]
    rfl
  case pos =>
    obtain ⟨b, _, rfl, _, _, rfl, rfl⟩ := continued
    rw [encodeChar_two lead b (Or.inl (by omega)) (by omega) (by omega) (by omega) (by omega)]
    rfl
  case pos | pos | pos =>
    obtain ⟨b, _, rfl, _, _, c, _, rfl, _, _, rfl, rfl⟩ := continued
    rw [encodeChar_three lead b c (by simp only [Nat.isValidChar]; omega) (by omega) (by omega)
      (by omega) (by omega) (by omega)]
    rfl
  all_goals
    obtain ⟨b, _, rfl, _, _, c, _, rfl, _, _, d, _, rfl, _, _, rfl, rfl⟩ := continued
    rw [encodeChar_four lead b c d (by simp only [Nat.isValidChar]; omega) (by omega) (by omega)
      (by omega) (by omega) (by omega)]
    rfl

private theorem tail_byte (m : Nat) :
    0x80 ≤ (UInt8.ofNat (0x80 + m % 64)).toNat ∧ (UInt8.ofNat (0x80 + m % 64)).toNat ≤ 0xBF ∧
      (UInt8.ofNat (0x80 + m % 64)).toNat % 64 = m % 64 := by
  rw [toNat_byte (by omega)]
  omega

theorem spells_encodeChar (c : Char) (rest : Bytes) :
    ∃ lead after, encodeChar c ++ rest = lead :: after ∧ Spells lead after c.toNat rest := by
  have valid : c.toNat.isValidChar := c.valid
  simp only [encodeChar]
  generalize c.toNat = n at valid ⊢
  unfold Nat.isValidChar at valid
  have lowest := tail_byte n
  have second := tail_byte (n / 64)
  have third := tail_byte (n / 4096)
  split_ifs
  · exact ⟨_, _, rfl, n, [], announce?_one ‹_›, continuation_nil_eq_ok.mpr rfl⟩
  · refine ⟨_, _, rfl, n / 64, _, announce?_two (by omega) (by omega), ?_⟩
    simp only [continuation_cons_eq_ok, continuation_nil_eq_ok]
    refine ⟨_, _, rfl, lowest.1, lowest.2.1, ?_⟩
    rw [lowest.2.2, Prod.mk.injEq]
    exact ⟨by omega, rfl⟩
  · refine ⟨_, _, rfl, n / 4096, _, announce?_three (by omega), ?_⟩
    simp only [continuation_cons_eq_ok, continuation_nil_eq_ok]
    refine ⟨_, _, rfl, ?_, ?_, _, _, rfl, lowest.1, lowest.2.1, ?_⟩
    · split <;> [rw [toNat_byte (by omega)]; skip] <;> omega
    · split <;> [rw [toNat_byte (by omega)]; skip] <;> omega
    · rw [lowest.2.2, second.2.2, Prod.mk.injEq]
      exact ⟨by omega, rfl⟩
  · refine ⟨_, _, rfl, n / 262144, _, announce?_four (by omega), ?_⟩
    simp only [continuation_cons_eq_ok, continuation_nil_eq_ok]
    refine ⟨_, _, rfl, ?_, ?_, _, _, rfl, second.1, second.2.1, _, _, rfl, lowest.1, lowest.2.1, ?_⟩
    · split <;> [rw [toNat_byte (by omega)]; skip] <;> omega
    · split <;> [rw [toNat_byte (by omega)]; skip] <;> omega
    · rw [lowest.2.2, second.2.2, third.2.2, Prod.mk.injEq]
      exact ⟨by omega, rfl⟩

/-! ### Texts -/

theorem decodeFrom_cons_of_spells {lead : UInt8} {after rest : Bytes} {value : Nat}
    (spells : Spells lead after value rest) (position : Nat) :
    ∃ next, decodeFrom position (lead :: after) =
      (decodeFrom next rest).map (Char.ofNat value :: ·) := by
  obtain ⟨bits, ranges, announced, continued⟩ := spells
  refine ⟨position + 1 + ranges.length, ?_⟩
  rw [decodeFrom]
  simp only [announced]
  split
  · rename_i failed
    rw [continued] at failed
    cases failed
  · rename_i found
    rw [continued] at found
    cases found
    rfl

theorem decodeFrom_flatMap_encodeChar (chars : List Char) (position : Nat) :
    decodeFrom position (chars.flatMap encodeChar) = .ok chars := by
  induction chars generalizing position with
  | nil => rw [List.flatMap_nil, decodeFrom]
  | cons c chars inductionHypothesis =>
    obtain ⟨lead, after, bytes, spells⟩ := spells_encodeChar c (chars.flatMap encodeChar)
    obtain ⟨next, read⟩ := decodeFrom_cons_of_spells spells position
    rw [List.flatMap_cons, bytes, read, inductionHypothesis]
    simp [Except.map]

theorem flatMap_encodeChar_of_decodeFrom {position : Nat} {bytes : Bytes} {chars : List Char}
    (decoded : decodeFrom position bytes = .ok chars) : chars.flatMap encodeChar = bytes := by
  induction position, bytes using decodeFrom.induct generalizing chars with
  | case1 position =>
    rw [decodeFrom] at decoded
    cases decoded
    rfl
  | case2 position lead after unannounced =>
    rw [decodeFrom] at decoded
    simp [unannounced] at decoded
  | case3 position lead after bits ranges announced taken reason failed =>
    rw [decodeFrom] at decoded
    simp only [announced] at decoded
    split at decoded
    · cases decoded
    · simp_all
  | case4 position lead after bits ranges announced value rest continued inductionHypothesis =>
    have spells : Spells lead after value rest := ⟨bits, ranges, announced, continued⟩
    rw [decodeFrom] at decoded
    simp only [announced] at decoded
    split at decoded
    · cases decoded
    · rename_i found
      rw [continued] at found
      cases found
      cases later : decodeFrom (position + 1 + ranges.length) rest with
      | error fault => simp [later, Except.map] at decoded
      | ok others =>
        simp only [later, Except.map, Except.ok.injEq] at decoded
        subst decoded
        rw [List.flatMap_cons, inductionHypothesis later, eq_encodeChar_of_spells spells]

theorem decode_encode (text : String) : decode (encode text) = .ok text := by
  rw [decode, encode, decodeFrom_flatMap_encodeChar]
  simp [Except.map]

theorem encode_of_decode {bytes : Bytes} {text : String} (decoded : decode bytes = .ok text) :
    encode text = bytes := by
  rw [decode] at decoded
  cases read : decodeFrom 0 bytes with
  | error fault => simp [read, Except.map] at decoded
  | ok chars =>
    simp only [read, Except.map, Except.ok.injEq] at decoded
    rw [encode, ← decoded, String.toList_ofList, flatMap_encodeChar_of_decodeFrom read]

end LedgerWire.Text.Utf8
