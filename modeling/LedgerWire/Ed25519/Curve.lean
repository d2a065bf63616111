import LedgerWire.Bytes

/-!
Contract: the twisted Edwards curve of Ed25519, `-x² + y² = 1 + d x² y²` over the integers modulo
`2^255 - 19`, in extended coordinates.

Owns:
- field arithmetic on representatives below the prime;
- points, their sum, multiples, the base point, and the 32-byte encoding.

Does not own: keys and signatures.
-/

namespace LedgerWire.Ed25519

def prime : Nat := 2 ^ 255 - 19

/-- The order of the base point. -/
def order : Nat := 2 ^ 252 + 27742317777372353535851937790883648493

namespace Field

def add (a b : Nat) : Nat := (a + b) % prime

def sub (a b : Nat) : Nat := (a + (prime - b % prime)) % prime

def mul (a b : Nat) : Nat := a * b % prime

/-- Power modulo the prime, by squaring. -/
def pow (a : Nat) (exponent : Nat) : Nat :=
  if exponent = 0 then
    1
  else
    let half := pow (mul a a) (exponent / 2)
    if exponent % 2 = 1 then mul a half else half
termination_by exponent
decreasing_by omega

/-- Inverse modulo the prime, by Fermat's little theorem; zero for zero. -/
def inv (a : Nat) : Nat := pow a (prime - 2)

/-- A square root of minus one. -/
def rootOfMinusOne : Nat := pow 2 ((prime - 1) / 4)

end Field

/-- The curve constant `-121665 / 121666`. -/
def curveConstant : Nat :=
  37095705934669439343138083508754565189542113879843219016388785533085940283555

/-- A point in extended coordinates: `x/z` and `y/z` are affine, and `t/z` is their product. -/
structure Point where
  x : Nat
  y : Nat
  z : Nat
  t : Nat
  deriving DecidableEq, Repr

namespace Point

def neutral : Point := ⟨0, 1, 1, 0⟩

/-- The point with these affine coordinates. -/
def ofAffine (x y : Nat) : Point := ⟨x, y, 1, Field.mul x y⟩

def base : Point :=
  ofAffine
    15112221349535400772501151409588531511454012693041857206046113283949847762202
    46316835694926478169428394003475163141307993866256225615783033603165251855960

/-- The sum of two points; the law is complete, so it also doubles. -/
def add (p q : Point) : Point :=
  let a := Field.mul (Field.sub p.y p.x) (Field.sub q.y q.x)
  let b := Field.mul (Field.add p.y p.x) (Field.add q.y q.x)
  let c := Field.mul (Field.mul p.t (2 * curveConstant)) q.t
  let d := Field.mul (2 * p.z) q.z
  let e := Field.sub b a
  let f := Field.sub d c
  let g := Field.add d c
  let h := Field.add b a
  ⟨Field.mul e f, Field.mul g h, Field.mul f g, Field.mul e h⟩

def negate (p : Point) : Point :=
  { p with x := Field.sub 0 p.x, t := Field.sub 0 p.t }

def scale (n : Nat) (p : Point) : Point :=
  if n = 0 then
    neutral
  else
    let rest := scale (n / 2) (p.add p)
    if n % 2 = 1 then p.add rest else rest
termination_by n
decreasing_by omega

/-- The encoding: the affine `y` in 255 bits, and above them the lowest bit of the affine `x`. -/
def encode (p : Point) : Bytes :=
  let inverse := Field.inv p.z
  let x := Field.mul p.x inverse
  let y := Field.mul p.y inverse
  Bytes.ofNatLE 32 (y + x % 2 * 2 ^ 255)

/-- The point of an encoding, if one has that `y`. The 255 bits are read modulo the prime, and the
bit above them chooses between the two values of `x` by their lowest bit. -/
def decode? (bytes : Bytes) : Option Point :=
  let n := Bytes.toNatLE bytes
  let y := n % 2 ^ 255 % prime
  let sign := n / 2 ^ 255 % 2
  let u := Field.sub (Field.mul y y) 1
  let v := Field.add (Field.mul curveConstant (Field.mul y y)) 1
  let v3 := Field.mul (Field.mul v v) v
  let v7 := Field.mul (Field.mul v3 v3) v
  let candidate := Field.mul (Field.mul u v3) (Field.pow (Field.mul u v7) ((prime - 5) / 8))
  let square := Field.mul v (Field.mul candidate candidate)
  let root? :=
    if square = u then some candidate
    else if square = Field.sub 0 u then some (Field.mul candidate Field.rootOfMinusOne)
    else none
  root?.map fun x => ofAffine (if x % 2 = sign then x else Field.sub 0 x) y

@[simp] theorem length_encode (p : Point) : p.encode.length = 32 := by
  simp [encode]

end Point

end LedgerWire.Ed25519
