import Chaumian.Dleq
import Chaumian.Keyset.Basic
import Chaumian.Secret

/-!
What passes between a wallet and a mint: outputs to be signed, the promises that the mint answers
them with, and the proofs that wallets make of these.
-/

namespace Chaumian

/-- A blinded message to be signed for an amount under a keyset. -/
structure Output (S : Suite) where
  /-- The amount; nothing where the mint is to choose it. -/
  amount : Amount
  keysetId : KeysetId
  blinded : S.Point
  deriving DecidableEq

/-- A signature of a blinded message. -/
structure Promise (S : Suite) where
  amount : Amount
  keysetId : KeysetId
  signature : S.Point
  dleq : Option (Dleq S)
  deriving DecidableEq

/-- A secret with the mint's signature, which is what ecash consists of. -/
structure Proof (S : Suite) where
  amount : Amount
  keysetId : KeysetId
  secret : Secret
  signature : S.Point
  dleq : Option (ProofDleq S)
  deriving DecidableEq

namespace Dleq

/-- The fields of a proof of equality in JSON. -/
def codec (S : Suite) : Json.Codec (Dleq S) :=
  (Json.Codec.record "BlindSignatureDleq"
    (.cons (.required "e" (Key.secretCodec S)) <|
      .cons (.required "s" (Key.secretCodec S)) .nil)).map
    (fun (e, s, _) => ⟨e, s⟩) (fun d => (d.e, d.s, ()))

end Dleq

namespace ProofDleq

/-- The fields of a kept proof of equality in JSON. -/
def codec (S : Suite) : Json.Codec (ProofDleq S) :=
  (Json.Codec.record "ProofDleq"
    (.cons (.required "e" (Key.secretCodec S)) <|
      .cons (.required "s" (Key.secretCodec S)) <|
        .cons (.required "r" (Key.secretCodec S)) .nil)).map
    (fun (e, s, r, _) => ⟨e, s, r⟩) (fun d => (d.e, d.s, d.r, ()))

end ProofDleq

namespace Output

/-- The fields of an output in JSON. -/
def codec (S : Suite) : Json.Codec (Output S) :=
  (Json.Codec.record "BlindedMessage"
    (.cons (.required "amount" Amount.codec) <|
      .cons (.required "id" KeysetId.codec) <|
        .cons (.required "B_" (Key.publicCodec S)) .nil)).map
    (fun (amount, id, blinded, _) => ⟨amount, id, blinded⟩)
    (fun o => (o.amount, o.keysetId, o.blinded, ()))

/-- The value of outputs. -/
def total {S : Suite} (outputs : List (Output S)) : Except Amount.Error Amount :=
  Amount.sum (outputs.map (·.amount))

end Output

namespace Promise

variable {S : Suite}

/-- The fields of a promise in JSON. -/
def codec (S : Suite) : Json.Codec (Promise S) :=
  (Json.Codec.record "BlindSignature"
    (.cons (.required "amount" Amount.codec) <|
      .cons (.required "id" KeysetId.codec) <|
        .cons (.required "C_" (Key.publicCodec S)) <|
          .cons (.omittable "dleq" (Dleq.codec S)) .nil)).map
    (fun (amount, id, signature, dleq, _) => ⟨amount, id, signature, dleq⟩)
    (fun p => (p.amount, p.keysetId, p.signature, p.dleq, ()))

/-- The value of promises. -/
def total (promises : List (Promise S)) : Except Amount.Error Amount :=
  Amount.sum (promises.map (·.amount))

/-- Checks that a promise was made for a blinded message with the key behind `key`. -/
def checkDleq (p : Promise S) (key blinded : S.Point) : Except Dleq.Error Unit :=
  match p.dleq with
  | some d => Dleq.check S blinded p.signature d.e d.s key
  | none => .error .missing

/-- The promise of an output for an amount, with its proof of equality. -/
def make (nonce k : S.Scalar) (amount : Amount) (output : Output S) :
    Except Dleq.Error (Promise S) := do
  let signature ← (Blind.sign S k output.blinded).mapError .blind
  let dleq ← Dleq.prove S nonce k output.blinded signature
  return ⟨amount, output.keysetId, signature, some dleq⟩

end Promise

namespace Proof

variable {S : Suite}

/-- The fields of a proof in JSON. -/
def codec (S : Suite) : Json.Codec (Proof S) :=
  (Json.Codec.record "Proof"
    (.cons (.required "amount" Amount.codec) <|
      .cons (.required "id" KeysetId.codec) <|
        .cons (.required "secret" Secret.codec) <|
          .cons (.required "C" (Key.publicCodec S)) <|
            .cons (.omittable "dleq" (ProofDleq.codec S)) .nil)).map
    (fun (amount, id, secret, signature, dleq, _) => ⟨amount, id, secret, signature, dleq⟩)
    (fun p => (p.amount, p.keysetId, p.secret, p.signature, p.dleq, ()))

/-- The point of a proof's secret, under which wallets and mints know it. -/
def y (p : Proof S) : Except Blind.Error S.Point := Blind.pointOf S p.secret.toBytes

/-- The points of the secrets of proofs. -/
def ys (proofs : List (Proof S)) : Except Blind.Error (List S.Point) := proofs.mapM y

/-- The value of proofs. -/
def total (proofs : List (Proof S)) : Except Amount.Error Amount :=
  Amount.sum (proofs.map (·.amount))

/-- Whether two proofs have the same secret. -/
def hasRepeated : List (Proof S) → Bool
  | [] => false
  | p :: rest => rest.any (·.secret = p.secret) || hasRepeated rest

/-- Proofs in the order of their amounts; equal amounts stay in the order they are in. -/
def sortByAmount (proofs : List (Proof S)) : List (Proof S) :=
  proofs.mergeSort (·.amount.toNat ≤ ·.amount.toNat)

/-- Checks that a proof was signed with the key behind `key`, from the proof alone: the blinded
message and its signature are found again with the factor that is kept with it. -/
def checkDleq (p : Proof S) (key : S.Point) : Except Dleq.Error Unit :=
  match p.dleq with
  | none => .error .missing
  | some d => do
    let y ← p.y.mapError .blind
    let blinded ← (S.add y (S.base d.r)).mapError .curve
    let mask ← (S.mul d.r key).mapError .curve
    let signature ← (S.add p.signature mask).mapError .curve
    Dleq.check S blinded signature d.e d.s key

/-- Whether that check succeeds. -/
def isSignedBy (p : Proof S) (key : S.Point) : Bool := (p.checkDleq key).isOk

/-- The proof of a promise for a secret blinded with `r`. A proof of equality that does not hold
is refused when these are checked; a missing one is let pass. -/
def ofPromise (keys : Keys S) (checked : Bool) (promise : Promise S) (r : S.Scalar)
    (secret : Secret) : Except Blind.Error (Proof S) := do
  let key ← (keys.get? promise.amount).elim (throw (.unknownAmount promise.amount)) pure
  let signature ← Blind.unblind S promise.signature r key
  let proof : Proof S :=
    ⟨promise.amount, promise.keysetId, secret, signature,
      promise.dleq.map fun d => ⟨d.e, d.s, r⟩⟩
  if checked && proof.dleq.isSome && !proof.isSignedBy key then throw .notVerified
  return proof

/-- The proofs of promises, each for the secret and the factor at its place. -/
def ofPromises (promises : List (Promise S)) (rs : List S.Scalar) (secrets : List Secret)
    (keys : Keys S) (checked : Bool) : Except Blind.Error (List (Proof S)) :=
  if promises.length ≠ rs.length ∨ promises.length ≠ secrets.length then .error .lengthMismatch
  else
    (promises.zip (rs.zip secrets)).mapM fun (promise, r, secret) =>
      ofPromise keys checked promise r secret

end Proof

end Chaumian
