import LedgerWire.Hash.Crc16
import LedgerWire.Proofs.Bytes.Bits

/-!
Contract: what the checksum detects. The register takes in a message bit by bit and is linear in it:
the checksums of two messages of one length differ by the checksum of their difference. A message
with its checksum is not turned into another one with its own by any change within ten bits, even
where these reach from the message into the checksum, of which the lower byte comes first.

Owns:
- `Crc16.feed`, the checksum bit by bit, and its linearity;
- the detection of changes within ten bits.

Does not own: which bits a misspelt character changes.
-/

namespace LedgerWire

/-! ### Differences of bits -/

theorem zipWith_xor_self (bits : List Bool) :
    List.zipWith xor bits bits = List.replicate bits.length false := by
  induction bits with
  | nil => rfl
  | cons bit bits inductionHypothesis => simp [List.replicate_succ]

theorem eq_of_true_notMem_zipWith_xor {left right : List Bool} (length : left.length = right.length)
    (none : true ∉ List.zipWith xor left right) : left = right := by
  induction left generalizing right with
  | nil => exact (List.length_eq_zero_iff.mp length.symm).symm
  | cons bit left inductionHypothesis =>
    cases right with
    | nil => simp at length
    | cons other right =>
      rw [List.zipWith_cons_cons, List.mem_cons, not_or] at none
      have first : bit = other := by
        cases bit <;> cases other <;> simp_all
      rw [first, inductionHypothesis (by simpa using length) none.2]

namespace Crc16

/-! ### Bit by bit -/

/-- Takes in one bit, at the upper end of the register. -/
def feed (register : BitVec 16) (bit : Bool) : BitVec 16 :=
  shift (register ^^^ if bit then 0x8000#16 else 0#16)

theorem shift_xor (a b : BitVec 16) : shift (a ^^^ b) = shift a ^^^ shift b := by
  have cancel (x y p : BitVec 16) : x ^^^ p ^^^ (y ^^^ p) = x ^^^ y := by
    rw [BitVec.xor_assoc, BitVec.xor_comm y p, ← BitVec.xor_assoc p p y, BitVec.xor_self,
      BitVec.zero_xor]
  unfold shift
  rw [BitVec.msb_xor, BitVec.shiftLeft_xor_distrib]
  cases a.msb <;> cases b.msb
  · rfl
  · exact BitVec.xor_assoc _ _ _
  · simp only [Bool.xor_false, if_true, Bool.false_eq_true, if_false]
    rw [BitVec.xor_assoc, BitVec.xor_comm (b <<< 1), ← BitVec.xor_assoc]
  · exact (cancel _ _ _).symm

/-- The polynomial has a last term, so no bit is lost. -/
theorem eq_zero_of_shift {a : BitVec 16} (zero : shift a = 0) : a = 0 := by
  unfold shift at zero
  cases top : a.msb with
  | true =>
    rw [top, if_pos rfl] at zero
    have lowest := congrArg (BitVec.getLsbD · 0) zero
    simp [polynomial] at lowest
  | false =>
    rw [top, if_neg (by simp)] at zero
    have doubled : a.toNat <<< 1 % 2 ^ 16 = 0 := by
      rw [← BitVec.toNat_shiftLeft, zero]
      rfl
    rw [BitVec.msb_eq_decide, decide_eq_false_iff_not] at top
    apply BitVec.eq_of_toNat_eq
    rw [Nat.shiftLeft_eq] at doubled
    change a.toNat = 0
    omega

theorem shift_injective : Function.Injective shift := by
  intro a b same
  have zero : shift (a ^^^ b) = 0 := by
    rw [shift_xor, same, BitVec.xor_self]
    rfl
  exact BitVec.xor_eq_zero_iff.mp (eq_zero_of_shift zero)

theorem feed_xor (a b : BitVec 16) (x y : Bool) :
    feed (a ^^^ b) (xor x y) = feed a x ^^^ feed b y := by
  have bits : (if xor x y then 0x8000#16 else 0#16) =
      (if x then 0x8000#16 else 0#16) ^^^ (if y then 0x8000#16 else 0#16) := by
    cases x <;> cases y <;> rfl
  rw [feed, feed, feed, ← shift_xor, bits]
  congr 1
  ac_rfl

/-- The registers after two messages of one length differ by what the difference makes of the
difference. -/
theorem foldl_feed_xor {left right : List Bool} (length : left.length = right.length)
    (a b : BitVec 16) :
    (List.zipWith xor left right).foldl feed (a ^^^ b) =
      left.foldl feed a ^^^ right.foldl feed b := by
  induction left generalizing right a b with
  | nil =>
    rw [List.length_eq_zero_iff.mp length.symm]
    rfl
  | cons bit left inductionHypothesis =>
    cases right with
    | nil => simp at length
    | cons other right =>
      rw [List.zipWith_cons_cons, List.foldl_cons, List.foldl_cons, List.foldl_cons, feed_xor]
      exact inductionHypothesis (by simpa using length) _ _

theorem foldl_feed_injective (bits : List Bool) {a b : BitVec 16}
    (same : bits.foldl feed a = bits.foldl feed b) : a = b := by
  induction bits generalizing a b with
  | nil => exact same
  | cons bit bits inductionHypothesis =>
    have shifted := shift_injective (inductionHypothesis same)
    exact (BitVec.xor_left_inj _).mp shifted

theorem step_eq (register : BitVec 16) (b : UInt8) :
    step register b = (bitsBE 8 b.toNat).foldl feed register := by
  -- both sides are linear in register and byte: compared are the bytes at zero, and the registers
  -- at byte zero
  have zero : ∀ n < 256, step 0#16 (UInt8.ofNat n) = (bitsBE 8 n).foldl feed 0#16 := by
    decide +kernel
  have fromZero := zero b.toNat b.toNat_lt
  rw [UInt8.ofNat_toNat] at fromZero
  have linear : step register b = Nat.repeat shift 8 register ^^^ step 0#16 b := by
    simp only [step, BitVec.zero_xor, Nat.repeat, shift_xor]
  have zeros : (List.replicate 8 false).foldl feed register = Nat.repeat shift 8 register := by
    simp [List.replicate, feed, Nat.repeat]
  have sum : List.zipWith xor (List.replicate 8 false) (bitsBE 8 b.toNat) = bitsBE 8 b.toNat := by
    simp [List.replicate, bitsBE]
  have apart : (List.zipWith xor (List.replicate 8 false) (bitsBE 8 b.toNat)).foldl feed
      (register ^^^ 0#16) =
      (List.replicate 8 false).foldl feed register ^^^ (bitsBE 8 b.toNat).foldl feed 0#16 :=
    foldl_feed_xor (by simp) register 0#16
  rw [sum, zeros, BitVec.xor_zero] at apart
  rw [linear, fromZero, ← apart]

theorem ofBytes_eq (bytes : Bytes) : ofBytes bytes = bytes.bits.foldl feed 0#16 := by
  have taken (register : BitVec 16) : bytes.foldl step register =
      bytes.bits.foldl feed register := by
    induction bytes generalizing register with
    | nil => rfl
    | cons b bytes inductionHypothesis =>
      rw [List.foldl_cons, inductionHypothesis, step_eq, ← List.foldl_append]
      rfl
  exact taken 0

/-- The bits of a register as they are written: those of the lower byte first. -/
def checkBits (register : BitVec 16) : List Bool :=
  bitsBE 8 register.toNat ++ bitsBE 8 (register.toNat / 2 ^ 8)

theorem bits_littleEndian (bytes : Bytes) :
    (littleEndian bytes).bits = checkBits (ofBytes bytes) := by
  rw [littleEndian, Bytes.ofNatLE, Bytes.ofNatLE, Bytes.ofNatLE, Bytes.bits, Bytes.values]
  rw [List.map_cons, List.map_singleton, bitsOf_cons, bitsOf_cons, bitsOf_nil, List.append_nil,
    UInt8.toNat_ofNat', UInt8.toNat_ofNat', bitsBE_mod le_rfl, bitsBE_mod le_rfl]
  rfl

theorem checkBits_xor (a b : BitVec 16) :
    checkBits (a ^^^ b) = List.zipWith xor (checkBits a) (checkBits b) := by
  have higher : (a.toNat ^^^ b.toNat) / 2 ^ 8 = (a.toNat / 2 ^ 8) ^^^ (b.toNat / 2 ^ 8) := by
    apply Nat.eq_of_testBit_eq
    intro place
    simp only [Nat.testBit_div_two_pow, Nat.testBit_xor]
  rw [checkBits, checkBits, checkBits, List.zipWith_append (by simp), BitVec.toNat_xor,
    higher, bitsBE_xor, bitsBE_xor]

/-! ### Changes within ten bits -/

/-- Whether all messages of at most `further` bits, after `count` bits that have left a register,
leave a checksum that shows a one past the first `10 - count` places, provided there was a one or
comes one. -/
def showsOnes : (further : Nat) → (register : BitVec 16) → (count : Nat) → (one : Bool) → Bool
  | 0, register, count, one => !one || ((checkBits register).drop (10 - count)).contains true
  | further + 1, register, count, one =>
    (!one || ((checkBits register).drop (10 - count)).contains true) &&
      showsOnes further (feed register false) (count + 1) one &&
      showsOnes further (feed register true) (count + 1) true

theorem true_mem_of_showsOnes {further count : Nat} {register : BitVec 16} {one : Bool}
    (shows : showsOnes further register count one = true) {bits : List Bool}
    (atMost : bits.length ≤ further)
    (some : one = true ∨ true ∈ bits) :
    true ∈ (checkBits (bits.foldl feed register)).drop (10 - (count + bits.length)) := by
  induction bits generalizing further count register one with
  | nil =>
    have isOne : one = true := by simpa using some
    cases further with
    | zero => simpa [showsOnes, isOne] using shows
    | succ further =>
      rw [showsOnes, Bool.and_eq_true, Bool.and_eq_true] at shows
      simpa [isOne] using shows.1.1
  | cons bit bits inductionHypothesis =>
    cases further with
    | zero => simp at atMost
    | succ further =>
      rw [List.length_cons] at atMost
      rw [showsOnes, Bool.and_eq_true, Bool.and_eq_true] at shows
      rw [List.foldl_cons, List.length_cons, Nat.add_comm bits.length, ← Nat.add_assoc]
      cases bit with
      | false => exact inductionHypothesis shows.1.2 (by omega) (by simpa using some)
      | true => exact inductionHypothesis shows.2 (by omega) (Or.inl rfl)

/-- A difference within ten bits of a message, of which the last is where the checksum begins, shows
in the checksum past the rest of the ten bits. There are two thousand differences; the register is
run over all. -/
theorem true_mem_checkBits {bits : List Bool} (atMost : bits.length ≤ 10) (some : true ∈ bits) :
    true ∈ (checkBits (bits.foldl feed 0#16)).drop (10 - bits.length) := by
  have shows : showsOnes 10 0#16 0 false = true := by decide +kernel
  simpa using true_mem_of_showsOnes shows atMost (Or.inr some)

/-- Two messages that differ in their last bits, at most ten, are the same if their checksums are,
past the rest of the ten bits. -/
theorem eq_of_checkBits (front : List Bool) {left right : List Bool}
    (length : left.length = right.length)
    (atMost : left.length ≤ 10)
    (same : (checkBits ((front ++ left).foldl feed 0#16)).drop (10 - left.length) =
      (checkBits ((front ++ right).foldl feed 0#16)).drop (10 - left.length)) :
    left = right := by
  apply eq_of_true_notMem_zipWith_xor length
  intro some
  have differenceLength : (List.zipWith xor left right).length = left.length := by
    rw [List.length_zipWith, length, Nat.min_self]
  have shown := true_mem_checkBits (differenceLength ▸ atMost) some
  have difference := foldl_feed_xor length (front.foldl feed 0#16) (front.foldl feed 0#16)
  rw [BitVec.xor_self, ← List.foldl_append, ← List.foldl_append] at difference
  rw [differenceLength, difference, checkBits_xor, List.drop_zipWith, same,
    zipWith_xor_self] at shown
  simp at shown

theorem checkBits_injective {a b : BitVec 16} (same : checkBits a = checkBits b) : a = b := by
  obtain ⟨lower, higher⟩ := List.append_inj same (by simp)
  apply BitVec.eq_of_toNat_eq
  apply eq_of_bitsBE a.isLt b.isLt
  rw [bitsBE_add 8 8, bitsBE_add 8 8, lower, higher]

/-- A message with its checksum is not turned into another one with its own by a change within ten
bits. -/
theorem eq_of_sameOutside {left right : List Bool} {start : Nat}
    (length : left.length = right.length)
    (same : SameOutside start 10 (left ++ checkBits (left.foldl feed 0#16))
      (right ++ checkBits (right.foldl feed 0#16))) :
    left = right := by
  have messages : SameOutside start 10 left right := by
    have parts := same.take left.length
    rwa [List.take_left, length, List.take_left] at parts
  have front := messages.front
  have back := same.back
  rw [List.drop_append, List.drop_append, messages.back, length, List.append_cancel_left_eq] at back
  rw [← List.take_append_drop start left, ← List.take_append_drop start right, front]
  congr 1
  rcases Nat.lt_or_ge right.length (start + 10) with across | inside
  · -- The window reaches past the message, or begins there, and nothing of the message follows it.
    apply eq_of_checkBits (right.take start) (by simp [length]) (by simp; omega)
    rw [List.take_append_drop, ← front, List.take_append_drop, List.length_drop, length]
    rcases Nat.le_total start right.length with begun | later
    · rwa [show 10 - (right.length - start) = start + 10 - right.length by omega]
    · rw [List.take_of_length_le (by omega), List.take_of_length_le (by omega)] at front
      rw [front]
  · -- The message goes on after the window, and what goes on loses no difference.
    rw [Nat.sub_eq_zero_of_le inside, List.drop_zero, List.drop_zero] at back
    rw [← List.take_append_drop 10 (left.drop start), ← List.take_append_drop 10 (right.drop start),
      List.drop_drop, List.drop_drop, messages.back]
    congr 1
    apply eq_of_checkBits (right.take start) (by simp [length]) (by simp)
    have registers := checkBits_injective back
    rw [← List.take_append_drop (start + 10) left, ← List.take_append_drop (start + 10) right,
      messages.back, List.foldl_append, List.foldl_append] at registers
    have sameRegister := foldl_feed_injective _ registers
    rw [List.take_add, List.take_add, front] at sameRegister
    rw [sameRegister]

/-- The check value of this checksum: that of the digits from one to nine. -/
example :
    ofBytes [0x31, 0x32, 0x33, 0x34, 0x35, 0x36, 0x37, 0x38, 0x39] = 0x31C3#16 := by decide +kernel

end Crc16

end LedgerWire
