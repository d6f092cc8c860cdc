import Chaumian.Hash.Sha256
import Chaumian.Secp256k1.Group
import Chaumian.Suite
import Chaumian.Text.Hex

/-!
The suite of secp256k1 and SHA-256.

A message is mapped to the first point found at an even second coordinate when the digest of the
message is hashed again with the counters 0, 1, 2, …. The challenge of a list of points is the
digest of their long encodings, written one after the other in hexadecimal.
-/

namespace Chaumian.Secp256k1

/-- What messages are prefixed with before they are mapped to points. -/
def domainSeparator : Bytes := Bytes.ofText "Secp256k1_HashToCurve_Cashu_"

/-- A counter in four bytes, least significant first. -/
def counterBytes (n : Nat) : Bytes := (Bytes.ofNat 4 n).reverse

/-- The first of `tries` counters from `counter` on whose digest is the first coordinate of a
point. -/
def searchPoint? (digest : Bytes) : (tries : Nat) → (counter : Nat) → Option Point
  | 0, _ => none
  | tries + 1, counter =>
    (Point.decompress? (2 :: Sha256.hash (digest ++ counterBytes counter))).or
      (searchPoint? digest tries (counter + 1))

/-- The point a message is mapped to. -/
def hashToPoint? (message : Bytes) : Option Point :=
  searchPoint? (Sha256.hash (domainSeparator ++ message)) (1 <<< 16) 0

/-- The digest of a list of points. -/
def digestPoints (points : List Point) : Bytes :=
  Sha256.hash (Bytes.ofText (Hex.encode (points.flatMap Point.expand)))

/-- The generator taken `k` times. As `k` is below the order of the group, the identity, for
which the generator stands in here, is never reached. -/
def base (k : Scalar groupOrder) : Point := (Point.generator.mul? k.val).getD Point.generator

end Secp256k1

/-- The suite of secp256k1 and SHA-256. -/
def Suite.secp256k1 : Suite where
  order := Secp256k1.groupOrder
  order_le := by decide
  Point := Secp256k1.Point
  decEq := inferInstance
  add? := Secp256k1.Point.add?
  neg := Secp256k1.Point.neg
  mul? k p := p.mul? k.val
  base := Secp256k1.base
  compress := Secp256k1.Point.compress
  expand := Secp256k1.Point.expand
  decompress? := Secp256k1.Point.decompress?
  hashToPoint? := Secp256k1.hashToPoint?
  challenge points := Bytes.toNat (Secp256k1.digestPoints points)

end Chaumian
