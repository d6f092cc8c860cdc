import Chaumian.Bytes
import Chaumian.Modular

/-!
The field over which the curve secp256k1 is defined: numbers modulo the prime
`2 ^ 256 - 2 ^ 32 - 977`.
-/

namespace Chaumian.Secp256k1

/-- The size of the field. -/
abbrev fieldSize : Nat := 0xfffffffffffffffffffffffffffffffffffffffffffffffffffffffefffffc2f

/-- An element of the field. -/
abbrev Field := Fin fieldSize

namespace Field

/-- The element congruent to a number. -/
def ofNat (n : Nat) : Field := Fin.ofNat fieldSize n

/-- The neutral element of addition. -/
def zero : Field := ofNat 0

/-- The neutral element of multiplication. -/
def one : Field := ofNat 1

/-- The square root of an element that has one: as the size of the field is 3 modulo 4, it is the
power `(fieldSize + 1) / 4`. -/
def squareRoot? (a : Field) : Option Field :=
  let root := power one a ((fieldSize + 1) / 4)
  if root * root = a then some root else none

/-- Whether the number that stands for an element is odd. -/
def isOdd (a : Field) : Bool := a.val % 2 = 1

/-- The element at its fixed width of 32 bytes. -/
def toBytes (a : Field) : Bytes := Bytes.ofNat 32 a.val

end Field

end Chaumian.Secp256k1
