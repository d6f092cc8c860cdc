import Chaumian.Hash.Hmac
import Chaumian.Secp256k1.Group
import Chaumian.Suite

/-!
Signatures on secp256k1 from which the signer's key can be recovered, with nonces drawn from the
key and the digest alone.
-/

namespace Chaumian.Secp256k1

/-- A signature and the two bits that tell which of the points with its `r` was meant. -/
structure RecoverableSignature where
  r : Nat
  s : Nat
  /-- Whether the second coordinate of the nonce's point is odd. -/
  odd : Bool
  /-- Whether its first coordinate is `r` plus the order. -/
  high : Bool
  deriving DecidableEq

/-- The state of the nonce generator: a key and a block. -/
structure NonceSource where
  key : Bytes
  block : Bytes

namespace NonceSource

/-- The source with its key renewed from a byte and data, and its block from the key. -/
def stir (source : NonceSource) (byte : UInt8) (data : Bytes) : NonceSource :=
  let key := Hmac.mac source.key (source.block ++ byte :: data)
  ⟨key, Hmac.mac key source.block⟩

/-- The source seeded with a secret key and a digest. -/
def seed (secret digest : Bytes) : NonceSource :=
  let start : NonceSource := ⟨List.replicate 32 0, List.replicate 32 1⟩
  (start.stir 0 (secret ++ digest)).stir 1 (secret ++ digest)

/-- The first of `tries` blocks that is a scalar. -/
def draw? (source : NonceSource) : (tries : Nat) → Option (Scalar groupOrder)
  | 0 => none
  | tries + 1 =>
    let block := Hmac.mac source.key source.block
    (Scalar.ofNat? groupOrder (Bytes.toNat block)).or
      ((NonceSource.mk source.key block).stir 0 [] |>.draw? tries)

end NonceSource

namespace RecoverableSignature

/-- The signature of a digest by a secret key, its `s` in the lower half. -/
def sign? (secret : Scalar groupOrder) (digest : Bytes) : Option RecoverableSignature := do
  let nonce ← (NonceSource.seed secret.toBytes digest).draw? 16
  let point ← Point.generator.mul? nonce.val
  let r := Fin.ofNat groupOrder point.x.val
  let z := Fin.ofNat groupOrder (Bytes.toNat digest)
  let s := inverse 1 (Fin.ofNat groupOrder nonce.val) * (z + r * Fin.ofNat groupOrder secret.val)
  let high := decide (point.x.val ≥ groupOrder)
  if r = 0 ∨ s = 0 then none
  else if s.val > groupOrder / 2 then some ⟨r.val, (-s).val, !point.y.isOdd, high⟩
  else some ⟨r.val, s.val, point.y.isOdd, high⟩

/-- The key that signed a digest. -/
def recover? (signature : RecoverableSignature) (digest : Bytes) : Option Point := do
  let x := if signature.high then signature.r + groupOrder else signature.r
  if signature.r = 0 ∨ signature.s = 0 ∨ x ≥ fieldSize then none
  let nonce ← Point.lift? (Field.ofNat x) signature.odd
  let w := inverse 1 (Fin.ofNat groupOrder signature.r)
  let z := Fin.ofNat groupOrder (Bytes.toNat digest)
  let ofNonce := (Fin.ofNat groupOrder signature.s * w).val
  let ofGenerator := (-(z * w)).val
  ((Projective.multiple ofNonce (.ofPoint nonce)).add
    (Projective.multiple ofGenerator (.ofPoint .generator))).toPoint?

/-- Whether a signature of a digest is by the given key; an `s` in the upper half is refused. -/
def verifies (signature : RecoverableSignature) (digest : Bytes) (key : Point) : Bool :=
  if signature.r = 0 ∨ signature.s = 0 ∨ signature.s > groupOrder / 2 then false
  else
    let w := inverse 1 (Fin.ofNat groupOrder signature.s)
    let z := Fin.ofNat groupOrder (Bytes.toNat digest)
    let u := (z * w).val
    let v := (Fin.ofNat groupOrder signature.r * w).val
    match ((Projective.multiple u (.ofPoint .generator)).add
        (Projective.multiple v (.ofPoint key))).toPoint? with
    | some point => point.x.val % groupOrder = signature.r
    | none => false

/-- The 64 bytes of `r` and `s`, then the two bits in a byte. -/
def toBytes (signature : RecoverableSignature) : Bytes :=
  Bytes.ofNat 32 signature.r ++ Bytes.ofNat 32 signature.s ++
    [(if signature.odd then 1 else 0) + (if signature.high then 2 else 0)]

/-- The signature that 65 bytes hold: `r` and `s` are below the order. -/
def ofBytes? (bytes : Bytes) : Option RecoverableSignature :=
  let r := Bytes.toNat (bytes.take 32)
  let s := Bytes.toNat ((bytes.drop 32).take 32)
  match bytes.drop 64 with
  | [bits] =>
    if r < groupOrder ∧ s < groupOrder ∧ bits < 4 then
      some ⟨r, s, bits &&& 1 = 1, bits &&& 2 = 2⟩
    else none
  | _ => none

end RecoverableSignature

end Chaumian.Secp256k1
