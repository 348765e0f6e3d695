import SnpGuest.Bytes.BigEndian

namespace SnpGuest

/-!
# The curve P-384

Arithmetic on `y² = x³ - 3x + b` over the prime field of 384 bits.  Points are worked on as triples
`(x, y, z)` that stand for `(x / z², y / z³)`; a triple with `z = 0` is the point at infinity.
Division is a power of the field element, by Fermat's theorem, so nothing here searches.
-/

namespace P384

abbrev fieldSize : Nat :=
  0xfffffffffffffffffffffffffffffffffffffffffffffffffffffffffffffffeffffffff0000000000000000ffffffff

/-- The number of points of the curve. -/
abbrev order : Nat :=
  0xffffffffffffffffffffffffffffffffffffffffffffffffc7634d81f4372ddf581a0db248b0a77aecec196accc52973

abbrev Coordinate := Fin fieldSize

/-- The constant term of the curve's equation. -/
def constantTerm : Coordinate :=
  0xb3312fa7e23ee7e4988e056be3f82d19181d9c6efe8141120314088f5013875ac656398d8a2ed19d2a85c8edd3ec2aef

/-- The power of a residue whose exponent has at most `bits` binary digits. -/
def power {n : Nat} : Nat → Fin (n + 1) → Nat → Fin (n + 1)
  | 0, _, _ => 1
  | bits + 1, base, exponent =>
    let half := power bits base (exponent / 2)
    if exponent % 2 = 1 then half * half * base else half * half

/-- The inverse of a residue modulo a prime of 384 bits; zero for zero. -/
def inverse {n : Nat} (value : Fin (n + 1)) : Fin (n + 1) :=
  power 384 value (n - 1)

/-- A point with affine coordinates. -/
structure Point where
  x : Coordinate
  y : Coordinate
deriving DecidableEq

namespace Point

def onCurve (point : Point) : Bool :=
  point.y * point.y == point.x * point.x * point.x - 3 * point.x + constantTerm

/-- The point whose multiples are all points of the curve. -/
def generator : Point where
  x := 0xaa87ca22be8b05378eb1c71ef320ad746e1d3b628ba79b9859f741e082542a385502f25dbf55296c3a545e3872760ab7
  y := 0x3617de4a96262c6f5d9e98bf9292dc29f8f41dbd289a147ce9da3113b5f0b8c00a60b1ce1d7e819d7a431d7c90ea0e5f

/-- The uncompressed encoding: a marker byte and both coordinates, high byte first. -/
def encode (point : Point) : Bytes :=
  4 :: (BigEndian.encode 48 point.x.val ++ BigEndian.encode 48 point.y.val)

/-- The coordinate whose bytes are given, if they name a residue. -/
def coordinate? (bytes : Bytes) : Option Coordinate :=
  let value := BigEndian.decode bytes
  if h : value < fieldSize then some ⟨value, h⟩ else none

/-- Reads the uncompressed encoding of a point of the curve. -/
def decode? : Bytes → Option Point
  | [] => none
  | marker :: bytes => do
    guard (marker = 4 ∧ bytes.length = 96)
    let x ← coordinate? (bytes.take 48)
    let y ← coordinate? (bytes.drop 48)
    let point : Point := ⟨x, y⟩
    guard point.onCurve
    return point

end Point

structure Triple where
  x : Coordinate
  y : Coordinate
  z : Coordinate

namespace Triple

/-- The point at infinity, the neutral element. -/
def infinity : Triple :=
  ⟨1, 1, 0⟩

def ofPoint (point : Point) : Triple :=
  ⟨point.x, point.y, 1⟩

def isInfinity (point : Triple) : Bool :=
  point.z == 0

/-- The affine point. -/
def toPoint (point : Triple) : Point :=
  -- The inverse of zero is zero, so the point at infinity gives zero coordinates.
  let inverted := inverse point.z
  let squared := inverted * inverted
  ⟨point.x * squared, point.y * squared * inverted⟩

def double (point : Triple) : Triple :=
  let delta := point.z * point.z
  let gamma := point.y * point.y
  let beta := point.x * gamma
  let alpha := 3 * ((point.x - delta) * (point.x + delta))
  let x := alpha * alpha - 8 * beta
  ⟨x, alpha * (4 * beta - x) - 8 * (gamma * gamma), 2 * (point.y * point.z)⟩

def add (left right : Triple) : Triple :=
  if left.isInfinity then right
  else if right.isInfinity then left
  else
    let leftSquare := left.z * left.z
    let rightSquare := right.z * right.z
    let leftX := left.x * rightSquare
    let rightX := right.x * leftSquare
    let leftY := left.y * (right.z * rightSquare)
    let rightY := right.y * (left.z * leftSquare)
    let run := rightX - leftX
    let rise := rightY - leftY
    if run = 0 then
      if rise = 0 then left.double else infinity
    else
      let square := run * run
      let cube := run * square
      let middle := leftX * square
      let x := rise * rise - cube - 2 * middle
      ⟨x, rise * (middle - x) - leftY * cube, run * (left.z * right.z)⟩

/-- The multiple of a point by a factor of at most `bits` binary digits. -/
def multiple : Nat → Nat → Triple → Triple
  | 0, _, _ => infinity
  | bits + 1, factor, point =>
    let doubled := (multiple bits (factor / 2) point).double
    if factor % 2 = 1 then doubled.add point else doubled

/-- The multiple of a point by a residue modulo the order. -/
def scale (factor : Fin order) (point : Point) : Triple :=
  multiple 384 factor.val (ofPoint point)

end Triple

end P384

end SnpGuest
