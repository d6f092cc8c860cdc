import Chaumian.Bytes

/-!
What blind signatures are made of: a group of known order with the encodings of its elements, a
map from messages into the group, and a challenge hash.

Everything above this module is written for any `Suite`. A key pair is a `Scalar` and the
element it multiplies the generator to; the identity of the group is no key, so the operations
that may reach it answer with an `Option`.
-/

namespace Chaumian

/-- A number from 1 up to, not including, `order`: a secret key or a blinding factor. -/
structure Scalar (order : Nat) where
  /-- The number. -/
  val : Nat
  pos : 0 < val
  lt : val < order
  deriving DecidableEq

namespace Scalar

variable {order : Nat}

/-- The scalar of a number, unless the number is zero or not below the order. -/
def ofNat? (order n : Nat) : Option (Scalar order) :=
  if h : 0 < n ∧ n < order then some ⟨n, h.1, h.2⟩ else none

/-- The scalar congruent to a number, unless that is zero. -/
def reduce? (order n : Nat) : Option (Scalar order) := ofNat? order (n % order)

/-- The sum of two scalars, unless it is zero. -/
def add? (k l : Scalar order) : Option (Scalar order) := reduce? order (k.val + l.val)

/-- The product of two scalars, unless it is zero. -/
def mul? (k l : Scalar order) : Option (Scalar order) := reduce? order (k.val * l.val)

/-- The scalar at its fixed width of 32 bytes. -/
def toBytes (k : Scalar order) : Bytes := Bytes.ofNat 32 k.val

theorem ext {k l : Scalar order} (h : k.val = l.val) : k = l := by
  cases k; cases l; cases h; rfl

theorem ofNat?_val (k : Scalar order) : ofNat? order k.val = some k := by
  simp [ofNat?, k.pos, k.lt]

end Scalar

/-- A group with its encodings and hashes. -/
structure Suite where
  /-- The order of the group. -/
  order : Nat
  /-- A scalar fits 32 bytes. -/
  order_le : order ≤ Nat.pow 2 256
  /-- The elements other than the identity. -/
  Point : Type
  /-- Equality of elements can be decided. -/
  decEq : DecidableEq Point
  /-- The sum of two elements, unless it is the identity. -/
  add? : Point → Point → Option Point
  /-- The inverse of an element. -/
  neg : Point → Point
  /-- A multiple of an element, unless it is the identity. -/
  mul? : Scalar order → Point → Option Point
  /-- A multiple of the generator. -/
  base : Scalar order → Point
  /-- The short encoding, 33 bytes. -/
  compress : Point → Bytes
  /-- The long encoding, which the challenge is taken over. -/
  expand : Point → Bytes
  /-- The element a short encoding stands for. -/
  decompress? : Bytes → Option Point
  /-- The element a message is mapped to. -/
  hashToPoint? : Bytes → Option Point
  /-- The challenge over a list of elements. -/
  challenge : List Point → Nat

instance (S : Suite) : DecidableEq S.Point := S.decEq

/-- The scalars of a suite. -/
abbrev Suite.Scalar (S : Suite) : Type := Chaumian.Scalar S.order

end Chaumian
