import Chaumian.Json.Codec
import Chaumian.Suite
import Chaumian.Text.Hex

/-!
The keys of a suite in text: public keys as their short encoding in hexadecimal, secret keys as
32 bytes in hexadecimal.
-/

namespace Chaumian

/-- What can go wrong in the group. -/
inductive CurveError where
  /-- An encoding of no element. -/
  | malformedPoint
  /-- An encoding of no scalar. -/
  | malformedScalar
  /-- A sum is the identity. -/
  | identitySum
  /-- A multiple is the identity. -/
  | identityMultiple
  deriving DecidableEq, Repr

/-- The wording of an error. -/
def CurveError.message : CurveError → String
  | .malformedPoint => "malformed public key"
  | .malformedScalar => "malformed or out-of-range secret key"
  | .identitySum =>
    "the sum of public keys was invalid or the input vector lengths was less than 1"
  | .identityMultiple => "bad tweak"

namespace Suite

variable (S : Suite)

/-- The sum of two elements; it may not be the identity. -/
def add (p q : S.Point) : Except CurveError S.Point :=
  (S.add? p q).elim (.error .identitySum) .ok

/-- The difference of two elements; it may not be the identity. -/
def sub (p q : S.Point) : Except CurveError S.Point := S.add p (S.neg q)

/-- A multiple of an element; it may not be the identity. -/
def mul (k : S.Scalar) (p : S.Point) : Except CurveError S.Point :=
  (S.mul? k p).elim (.error .identityMultiple) .ok

end Suite

namespace Key

/-- What keeps a text from being a key. -/
inductive Error where
  | curve (cause : CurveError)
  /-- A public key of another size, in bytes, than it has to be. -/
  | wrongSize (expected found : Nat)
  deriving DecidableEq, Repr

/-- The wording of an error. -/
def Error.message : Error → String
  | .curve cause => cause.message
  | .wrongSize expected found =>
    s!"Invalid public key size: expected={expected}, found={found}"

/-- The size of a public key in bytes. -/
def publicSize : Nat := 33

variable (S : Suite)

/-- The text of a public key. -/
def publicText (p : S.Point) : String := Hex.encode (S.compress p)

/-- The public key a text stands for. The size is judged before anything else. -/
def publicOfText (text : String) : Except Error S.Point :=
  if text.utf8ByteSize ≠ 2 * publicSize then
    .error (.wrongSize publicSize (text.utf8ByteSize / 2))
  else
    match Hex.decode text with
    | .ok bytes => (S.decompress? bytes).elim (.error (.curve .malformedPoint)) .ok
    | .error _ => .error (.curve .malformedPoint)

/-- A public key in messages about values. -/
def describePublic (p : S.Point) : String := s!"PublicKey(\"{publicText S p}\")"

/-- The secret key of 32 bytes. -/
def secretOfBytes (bytes : Bytes) : Except Error S.Scalar :=
  if bytes.length = 32 then
    (Scalar.ofNat? S.order bytes.toNat).elim (.error (.curve .malformedScalar)) .ok
  else .error (.curve .malformedScalar)

/-- The secret key a text stands for. -/
def secretOfText (text : String) : Except Error S.Scalar :=
  match Hex.decode text with
  | .ok bytes => secretOfBytes S bytes
  | .error _ => .error (.curve .malformedScalar)

/-- The text of a secret key. -/
def secretText (k : S.Scalar) : String := Hex.encode k.toBytes

/-- What stands for a secret key where it is displayed. -/
def redacted : String := "[REDACTED]"

/-- What stands for a secret key in messages about values. -/
def describeSecret : String := "SecretKey([REDACTED])"

/-- Public keys in JSON are their texts. -/
def publicCodec : Json.Codec S.Point :=
  Json.Codec.string.refine (fun s => (publicOfText S s).mapError Error.message) (publicText S)

/-- Secret keys in JSON are their texts. -/
def secretCodec : Json.Codec S.Scalar :=
  Json.Codec.string.refine (fun s => (secretOfText S s).mapError Error.message) (secretText S)

end Key

end Chaumian
