import Chaumian.Blind

/-!
Proofs that two discrete logarithms are equal: that a signature `C` of a blinded message `B` was
made with the very key behind the public key `A`.

With a nonce `n`, the mint publishes the challenge `e` over `n·G`, `n·B`, `A` and `C`, and
`s = n + e·k`. As `s·G - e·A = n·G` and `s·B - e·C = n·B`, anyone can take the challenge again.
-/

namespace Chaumian

/-- A proof for a blinded message. -/
structure Dleq (S : Suite) where
  e : S.Scalar
  s : S.Scalar
  deriving DecidableEq

/-- A proof kept with the blinding factor, from which the blinded message is found again. -/
structure ProofDleq (S : Suite) where
  e : S.Scalar
  s : S.Scalar
  /-- The blinding factor. -/
  r : S.Scalar
  deriving DecidableEq

namespace Dleq

/-- What can be wrong with a proof of equality. -/
inductive Error where
  | missing
  | invalid
  | blind (cause : Blind.Error)
  | key (cause : Key.Error)
  | curve (cause : CurveError)
  deriving DecidableEq

/-- The wording of an error. -/
def Error.message : Error → String
  | .missing => "No Dleq Proof provided"
  | .invalid => "Invalid Dleq Proof"
  | .blind cause => cause.message
  | .key cause => cause.message
  | .curve cause => cause.message

variable (S : Suite)

/-- Checks a proof for a blinded message and its signature by the key behind `key`. -/
def check (blinded signature : S.Point) (e s : S.Scalar) (key : S.Point) :
    Except Error Unit := do
  let ofBase ← (do S.sub (S.base s) (← S.mul e key) : Except CurveError S.Point).mapError .curve
  let ofBlinded ← (do S.sub (← S.mul s blinded) (← S.mul e signature) :
    Except CurveError S.Point).mapError .curve
  if S.challenge [ofBase, ofBlinded, key, signature] = e.val then return ()
  else throw .invalid

/-- The proof for a blinded message and its signature, made with the key and a nonce. -/
def prove (nonce : S.Scalar) (k : S.Scalar) (blinded signature : S.Point) :
    Except Error (Dleq S) := do
  let ofBlinded ← (S.mul nonce blinded).mapError .curve
  let challenge := S.challenge [S.base nonce, ofBlinded, S.base k, signature]
  let e ← (Scalar.ofNat? S.order challenge).elim (throw (.key (.curve .malformedScalar))) pure
  let ek ← (e.mul? k).elim (throw (.curve .identityMultiple)) pure
  let s ← (nonce.add? ek).elim (throw (.curve .identityMultiple)) pure
  return ⟨e, s⟩

end Dleq

end Chaumian
