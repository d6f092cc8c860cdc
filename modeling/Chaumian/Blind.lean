import Chaumian.Amount
import Chaumian.Key

/-!
Blind signatures.

The holder of a secret `x` hides the point `Y` of `x` behind a factor `r` as `Y + r·G`. The mint
multiplies that by its key `k`, and taking `r·K` off again leaves `k·Y`, which the mint has never
seen but can check.
-/

namespace Chaumian.Blind

/-- What can go wrong with blind signatures. -/
inductive Error where
  /-- A signature is not the mint's. -/
  | notVerified
  /-- A message is mapped to no point. -/
  | noPoint
  /-- The mint has no key for an amount. -/
  | unknownAmount (amount : Amount)
  /-- Promises, factors and secrets are not equally many. -/
  | lengthMismatch
  | curve (cause : CurveError)
  deriving DecidableEq

/-- The wording of an error. -/
def Error.message : Error → String
  | .notVerified => "Token not verified"
  | .noPoint => "No valid point found"
  | .unknownAmount amount => s!"No mint key for amount `{amount.toText}`"
  | .lengthMismatch => "Lengths of promises, rs, and secrets must be equal"
  | .curve cause => cause.message

variable (S : Suite)

/-- The point of a message. -/
def pointOf (message : Bytes) : Except Error S.Point :=
  (S.hashToPoint? message).elim (.error .noPoint) .ok

/-- A message hidden behind a factor: `Y + r·G`. -/
def blind (message : Bytes) (r : S.Scalar) : Except Error S.Point := do
  let y ← pointOf S message
  (S.add y (S.base r)).mapError .curve

/-- The mint's signature of a blinded message: `k·B`. -/
def sign (k : S.Scalar) (blinded : S.Point) : Except Error S.Point :=
  (S.mul k blinded).mapError .curve

/-- The signature without the factor it was hidden behind: `C - r·K`. -/
def unblind (signature : S.Point) (r : S.Scalar) (key : S.Point) : Except Error S.Point := do
  let mask ← (S.mul r key).mapError .curve
  (S.sub signature mask).mapError .curve

/-- The mint's check of a signature of a message: it has to be `k·Y`. -/
def verify (k : S.Scalar) (signature : S.Point) (message : Bytes) : Except Error Unit := do
  let y ← pointOf S message
  let expected ← (S.mul k y).mapError .curve
  if signature = expected then return () else throw .notVerified

end Chaumian.Blind
