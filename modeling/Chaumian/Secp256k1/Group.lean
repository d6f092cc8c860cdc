import Chaumian.Secp256k1.Field

/-!
The group of the curve `y² = x³ + 7`.

A `Point` has the coordinates of an element other than the identity and the proof that they lie
on the curve. Sums and multiples are computed on `Projective` triples, where `(x, y, z)` stands
for `(x / z², y / z³)` and `z = 0` for the identity, so that one division ends each computation.
-/

namespace Chaumian.Secp256k1

/-- The order of the group, a prime. -/
abbrev groupOrder : Nat := 0xfffffffffffffffffffffffffffffffebaaedce6af48a03bbfd25e8cd0364141

/-- The right-hand side of the curve's equation. -/
def curve (x : Field) : Field := x * x * x + Field.ofNat 7

/-- An element of the group other than the identity. -/
structure Point where
  x : Field
  y : Field
  onCurve : y * y = curve x
  deriving DecidableEq

namespace Point

/-- The point with the given coordinates, if they lie on the curve. -/
def ofCoordinates? (x y : Field) : Option Point :=
  if h : y * y = curve x then some ⟨x, y, h⟩ else none

/-- The point with the given first coordinate whose second one has the given parity. -/
def lift? (x : Field) (odd : Bool) : Option Point := do
  let root ← (curve x).squareRoot?
  let y := if root.isOdd = odd then root else -root
  if y.isOdd = odd then ofCoordinates? x y else none

/-- The point every other one is a multiple of. -/
def generator : Point where
  x := Field.ofNat 0x79be667ef9dcbbac55a06295ce870b07029bfcdb2dce28d959f2815b16f81798
  y := Field.ofNat 0x483ada7726a3c4655da4fbfc0e1108a8fd17b448a68554199c47d08ffb10d4b8
  onCurve := by decide +kernel

end Point

/-- An element of the group in projective form. -/
structure Projective where
  x : Field
  y : Field
  z : Field

namespace Projective

/-- The identity. -/
def zero : Projective := ⟨Field.one, Field.one, Field.zero⟩

/-- A point in projective form. -/
def ofPoint (p : Point) : Projective := ⟨p.x, p.y, Field.one⟩

/-- Twice an element. -/
def double (p : Projective) : Projective :=
  if p.z = Field.zero then zero
  else
    let a := p.x * p.x
    let b := p.y * p.y
    let c := b * b
    let t := p.x + b
    let d := t * t - a - c
    let d := d + d
    let e := a + a + a
    let x := e * e - (d + d)
    let c2 := c + c
    let c4 := c2 + c2
    let yz := p.y * p.z
    ⟨x, e * (d - x) - (c4 + c4), yz + yz⟩

/-- The sum of two elements. -/
def add (p q : Projective) : Projective :=
  if p.z = Field.zero then q
  else if q.z = Field.zero then p
  else
    let pz2 := p.z * p.z
    let qz2 := q.z * q.z
    let u := p.x * qz2
    let v := p.y * qz2 * q.z
    let h := q.x * pz2 - u
    let r := q.y * pz2 * p.z - v
    if h = Field.zero then
      if r = Field.zero then double p else zero
    else
      let h2 := h * h
      let h3 := h2 * h
      let uh2 := u * h2
      let x := r * r - h3 - (uh2 + uh2)
      ⟨x, r * (uh2 - x) - v * h3, p.z * q.z * h⟩

/-- A multiple of an element, by doubling. -/
def multiple (n : Nat) (p : Projective) : Projective :=
  if n = 0 then zero
  else
    let half := (multiple (n / 2) p).double
    if n % 2 = 1 then half.add p else half
termination_by n
decreasing_by omega

/-- The point an element is, unless it is the identity. -/
def toPoint? (p : Projective) : Option Point :=
  if p.z = Field.zero then none
  else
    let w := inverse Field.one p.z
    let w2 := w * w
    Point.ofCoordinates? (p.x * w2) (p.y * w2 * w)

end Projective

namespace Point

/-- The sum of two points, unless it is the identity. -/
def add? (p q : Point) : Option Point :=
  ((Projective.ofPoint p).add (Projective.ofPoint q)).toPoint?

theorem neg_mul_neg (y : Field) : -y * -y = y * y := by grind

/-- The inverse of a point. -/
def neg (p : Point) : Point := ⟨p.x, -p.y, by rw [neg_mul_neg, p.onCurve]⟩

/-- A multiple of a point, unless it is the identity. -/
def mul? (n : Nat) (p : Point) : Option Point :=
  (Projective.multiple n (Projective.ofPoint p)).toPoint?

/-- The parity of the second coordinate, then the first coordinate. -/
def compress (p : Point) : Bytes := (if p.y.isOdd then 3 else 2) :: p.x.toBytes

/-- The byte 4 and both coordinates. -/
def expand (p : Point) : Bytes := 4 :: (p.x.toBytes ++ p.y.toBytes)

/-- The point a compressed form stands for: the first coordinate is below the size of the field
and some point has it. -/
def decompress? : Bytes → Option Point
  | tag :: rest => do
    let x := Bytes.toNat rest
    if rest.length ≠ 32 ∨ x ≥ fieldSize then none
    else if tag = 2 then lift? (Field.ofNat x) false
    else if tag = 3 then lift? (Field.ofNat x) true
    else none
  | [] => none

end Point

end Chaumian.Secp256k1
