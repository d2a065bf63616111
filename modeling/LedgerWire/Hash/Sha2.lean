import LedgerWire.Bytes

/-!
Contract: the hash functions SHA-256 and SHA-512 of FIPS 180-4.

Both are one construction over words of 32 and of 64 bits. The constants are the leading bits of the
fractional parts of roots of the first primes, so the narrow ones are the upper halves of the wide
ones and one table serves both.

Owns:
- `Sha2.Variant`, the parameters of the construction, and `Variant.hash`;
- `sha256` and `sha512`.

Does not own: what is hashed.
-/

namespace LedgerWire

namespace Sha2

/-- The first 64 bits of the fractional parts of the cube roots of the first 80 primes. -/
def cubeRootBits : List Nat := [
  0x428a2f98d728ae22, 0x7137449123ef65cd, 0xb5c0fbcfec4d3b2f, 0xe9b5dba58189dbbc,
  0x3956c25bf348b538, 0x59f111f1b605d019, 0x923f82a4af194f9b, 0xab1c5ed5da6d8118,
  0xd807aa98a3030242, 0x12835b0145706fbe, 0x243185be4ee4b28c, 0x550c7dc3d5ffb4e2,
  0x72be5d74f27b896f, 0x80deb1fe3b1696b1, 0x9bdc06a725c71235, 0xc19bf174cf692694,
  0xe49b69c19ef14ad2, 0xefbe4786384f25e3, 0x0fc19dc68b8cd5b5, 0x240ca1cc77ac9c65,
  0x2de92c6f592b0275, 0x4a7484aa6ea6e483, 0x5cb0a9dcbd41fbd4, 0x76f988da831153b5,
  0x983e5152ee66dfab, 0xa831c66d2db43210, 0xb00327c898fb213f, 0xbf597fc7beef0ee4,
  0xc6e00bf33da88fc2, 0xd5a79147930aa725, 0x06ca6351e003826f, 0x142929670a0e6e70,
  0x27b70a8546d22ffc, 0x2e1b21385c26c926, 0x4d2c6dfc5ac42aed, 0x53380d139d95b3df,
  0x650a73548baf63de, 0x766a0abb3c77b2a8, 0x81c2c92e47edaee6, 0x92722c851482353b,
  0xa2bfe8a14cf10364, 0xa81a664bbc423001, 0xc24b8b70d0f89791, 0xc76c51a30654be30,
  0xd192e819d6ef5218, 0xd69906245565a910, 0xf40e35855771202a, 0x106aa07032bbd1b8,
  0x19a4c116b8d2d0c8, 0x1e376c085141ab53, 0x2748774cdf8eeb99, 0x34b0bcb5e19b48a8,
  0x391c0cb3c5c95a63, 0x4ed8aa4ae3418acb, 0x5b9cca4f7763e373, 0x682e6ff3d6b2b8a3,
  0x748f82ee5defb2fc, 0x78a5636f43172f60, 0x84c87814a1f0ab72, 0x8cc702081a6439ec,
  0x90befffa23631e28, 0xa4506cebde82bde9, 0xbef9a3f7b2c67915, 0xc67178f2e372532b,
  0xca273eceea26619c, 0xd186b8c721c0c207, 0xeada7dd6cde0eb1e, 0xf57d4f7fee6ed178,
  0x06f067aa72176fba, 0x0a637dc5a2c898a6, 0x113f9804bef90dae, 0x1b710b35131c471b,
  0x28db77f523047d84, 0x32caab7b40c72493, 0x3c9ebe0a15c9bebc, 0x431d67c49c100d4c,
  0x4cc5d4becb3e42b6, 0x597f299cfc657e2a, 0x5fcb6fab3ad6faec, 0x6c44198c4a475817]

/-- The first 64 bits of the fractional parts of the square roots of the first 8 primes. -/
def squareRootBits : List Nat := [
  0x6a09e667f3bcc908, 0xbb67ae8584caa73b, 0x3c6ef372fe94f82b, 0xa54ff53a5f1d36f1,
  0x510e527fade682d1, 0x9b05688c2b3e6c1f, 0x1f83d9abfb41bd6b, 0x5be0cd19137e2179]

/-- Three amounts by which a word is rotated, or rotated and at last shifted, before a sum. -/
abbrev Amounts := Nat × Nat × Nat

/-- The parameters of one function of the family, over words of `width` bits. -/
structure Variant (width : Nat) where
  wordBytes : Nat
  constants : List (BitVec width)
  initial : List (BitVec width)
  upperSigma0 : Amounts
  upperSigma1 : Amounts
  lowerSigma0 : Amounts
  lowerSigma1 : Amounts

/-- The eight words of state between rounds. -/
structure State (width : Nat) where
  a : BitVec width
  b : BitVec width
  c : BitVec width
  d : BitVec width
  e : BitVec width
  f : BitVec width
  g : BitVec width
  h : BitVec width

variable {width : Nat}

def rotations (amounts : Amounts) (x : BitVec width) : BitVec width :=
  x.rotateRight amounts.1 ^^^ x.rotateRight amounts.2.1 ^^^ x.rotateRight amounts.2.2

def rotationsShift (amounts : Amounts) (x : BitVec width) : BitVec width :=
  x.rotateRight amounts.1 ^^^ x.rotateRight amounts.2.1 ^^^ x >>> amounts.2.2

/-- Bitwise choice: where `x` has a one the bit of `y`, elsewhere that of `z`. -/
def choose (x y z : BitVec width) : BitVec width :=
  (x &&& y) ^^^ (~~~x &&& z)

/-- Bitwise majority. -/
def majority (x y z : BitVec width) : BitVec width :=
  (x &&& y) ^^^ (x &&& z) ^^^ (y &&& z)

namespace State

/-- The state whose words are listed; missing words are zero. -/
def ofWords (words : List (BitVec width)) : State width :=
  ⟨words.getD 0 0, words.getD 1 0, words.getD 2 0, words.getD 3 0,
    words.getD 4 0, words.getD 5 0, words.getD 6 0, words.getD 7 0⟩

/-- The words of a state, in order. -/
def words (s : State width) : List (BitVec width) :=
  [s.a, s.b, s.c, s.d, s.e, s.f, s.g, s.h]

def add (s t : State width) : State width :=
  ⟨s.a + t.a, s.b + t.b, s.c + t.c, s.d + t.d, s.e + t.e, s.f + t.f, s.g + t.g, s.h + t.h⟩

end State

namespace Variant

/-- The message schedule from its last sixteen words, newest first, for `count` more words; yields
the words that leave the window, in order. -/
def schedule (variant : Variant width) : (count : Nat) → List (BitVec width) → List (BitVec width)
  | 0, _ => []
  | count + 1, window =>
    let next :=
      rotationsShift variant.lowerSigma1 (window.getD 1 0) + window.getD 6 0 +
        rotationsShift variant.lowerSigma0 (window.getD 14 0) + window.getD 15 0
    window.getD 15 0 :: schedule variant count (next :: window.take 15)

/-- One round with the sum of its constant and its schedule word. -/
def round (variant : Variant width) (s : State width) (input : BitVec width) : State width :=
  let t1 := s.h + rotations variant.upperSigma1 s.e + choose s.e s.f s.g + input
  let t2 := rotations variant.upperSigma0 s.a + majority s.a s.b s.c
  ⟨t1 + t2, s.a, s.b, s.c, s.d + t1, s.e, s.f, s.g⟩

def blockWords (variant : Variant width) : (count : Nat) → Bytes → List (BitVec width)
  | 0, _ => []
  | count + 1, bytes =>
    BitVec.ofNat width (Bytes.toNatBE (bytes.take variant.wordBytes)) ::
      blockWords variant count (bytes.drop variant.wordBytes)

/-- Takes in one block of sixteen words. -/
def compress (variant : Variant width) (s : State width) (block : Bytes) : State width :=
  let window := (variant.blockWords 16 block).reverse
  let words := variant.schedule variant.constants.length window
  s.add ((List.zipWith (· + ·) variant.constants words).foldl variant.round s)

/-- Takes in `count` blocks. -/
def absorb (variant : Variant width) : (count : Nat) → State width → Bytes → State width
  | 0, s, _ => s
  | count + 1, s, bytes =>
    let size := 16 * variant.wordBytes
    absorb variant count (variant.compress s (bytes.take size)) (bytes.drop size)

/-- The message with a one bit, zeros, and its length in bits, up to a whole number of blocks. -/
def pad (variant : Variant width) (message : Bytes) : Bytes :=
  let size := 16 * variant.wordBytes
  let lengthSize := 2 * variant.wordBytes
  let zeros := (size - (message.length + 1 + lengthSize) % size) % size
  message ++ 0x80 :: List.replicate zeros 0 ++ Bytes.ofNatBE lengthSize (8 * message.length)

def hash (variant : Variant width) (message : Bytes) : Bytes :=
  let padded := variant.pad message
  let final :=
    variant.absorb (padded.length / (16 * variant.wordBytes)) (State.ofWords variant.initial) padded
  final.words.flatMap fun word => Bytes.ofNatBE variant.wordBytes word.toNat

theorem length_hash (variant : Variant width) (message : Bytes) :
    (variant.hash message).length = 8 * variant.wordBytes := by
  simp [hash, State.words]
  omega

end Variant

def narrow : Variant 32 where
  wordBytes := 4
  constants := (cubeRootBits.take 64).map fun bits => BitVec.ofNat 32 (bits / 2 ^ 32)
  initial := squareRootBits.map fun bits => BitVec.ofNat 32 (bits / 2 ^ 32)
  upperSigma0 := (2, 13, 22)
  upperSigma1 := (6, 11, 25)
  lowerSigma0 := (7, 18, 3)
  lowerSigma1 := (17, 19, 10)

def wide : Variant 64 where
  wordBytes := 8
  constants := cubeRootBits.map fun bits => BitVec.ofNat 64 bits
  initial := squareRootBits.map fun bits => BitVec.ofNat 64 bits
  upperSigma0 := (28, 34, 39)
  upperSigma1 := (14, 18, 41)
  lowerSigma0 := (1, 8, 7)
  lowerSigma1 := (19, 61, 6)

end Sha2

def sha256 (message : Bytes) : Bytes :=
  Sha2.narrow.hash message

def sha512 (message : Bytes) : Bytes :=
  Sha2.wide.hash message

@[simp] theorem length_sha256 (message : Bytes) : (sha256 message).length = 32 :=
  Sha2.narrow.length_hash message

@[simp] theorem length_sha512 (message : Bytes) : (sha512 message).length = 64 :=
  Sha2.wide.length_hash message

end LedgerWire
