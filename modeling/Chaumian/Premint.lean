import Chaumian.Proof

/-!
Outputs together with what is needed to make proofs of the promises for them: their secrets and
blinding factors.
-/

namespace Chaumian

/-- A secret that nobody can guess, from 32 random bytes: their text in hexadecimal. -/
def Secret.ofRandom (bytes : Bytes) : Secret := ⟨Hex.encode bytes⟩

/-- An output with its secret and blinding factor. -/
structure PremintItem (S : Suite) where
  output : Output S
  secret : Secret
  factor : S.Scalar
  deriving DecidableEq

namespace PremintItem

variable {S : Suite}

/-- The output of a secret for an amount. -/
def make (id : KeysetId) (amount : Amount) (secret : Secret) (factor : S.Scalar) :
    Except Blind.Error (PremintItem S) := do
  let blinded ← Blind.blind S secret.toBytes factor
  return ⟨⟨amount, id, blinded⟩, secret, factor⟩

/-- The amount of the output. -/
def amount (item : PremintItem S) : Amount := item.output.amount

/-- Whether the secret is the text of 32 bytes, and the output is blinded from it. -/
def isConsistent (item : PremintItem S) : Bool :=
  item.secret.text.length = 64 ∧
    (Blind.blind S item.secret.toBytes item.factor).toOption = some item.output.blinded

end PremintItem

/-- The outputs of one request, in the order in which they are sent. -/
structure Premint (S : Suite) where
  keysetId : KeysetId
  items : List (PremintItem S)
  deriving DecidableEq

namespace Premint

variable {S : Suite}

/-- No outputs. -/
def empty (id : KeysetId) : Premint S := ⟨id, []⟩

/-- Outputs for amounts, one each, with secrets and factors from a source of such pairs. -/
def generate {m : Type → Type} [Monad m] (draw : m (Secret × S.Scalar)) (id : KeysetId)
    (amounts : List Amount) : ExceptT Blind.Error m (Premint S) := do
  let items ← amounts.mapM fun amount => do
    let (secret, factor) ← (draw : m _)
    (ExceptT.mk (pure (PremintItem.make id amount secret factor)) :
      ExceptT Blind.Error m (PremintItem S))
  return ⟨id, items⟩

/-- The number of outputs without amount that are sent for change out of a reserve: enough for
every amount below the reserve, and at least one. -/
def blankCount (reserve : Amount) : Nat :=
  if reserve.toNat ≤ 2 then 1 else (reserve.toNat - 1).log2 + 1

/-- The amounts of the outputs for change out of a reserve. -/
def blankAmounts (reserve : Amount) : List Amount := List.replicate (blankCount reserve) .zero

/-- The outputs. -/
def outputs (premint : Premint S) : List (Output S) := premint.items.map (·.output)

/-- The secrets. -/
def secrets (premint : Premint S) : List Secret := premint.items.map (·.secret)

/-- The blinding factors. -/
def factors (premint : Premint S) : List S.Scalar := premint.items.map (·.factor)

/-- The amounts. -/
def amounts (premint : Premint S) : List Amount := premint.items.map (·.amount)

/-- The number of outputs. -/
def size (premint : Premint S) : Nat := premint.items.length

/-- The value of the outputs. -/
def total (premint : Premint S) : Except Amount.Error Amount := Amount.sum premint.amounts

/-- The outputs followed by others. -/
def append (premint other : Premint S) : Premint S :=
  { premint with items := premint.items ++ other.items }

/-- The outputs before a place. -/
def take (n : Nat) (premint : Premint S) : Premint S :=
  { premint with items := premint.items.take n }

/-- The outputs from a place on. -/
def drop (n : Nat) (premint : Premint S) : Premint S :=
  { premint with items := premint.items.drop n }

/-- The proofs of the promises for the outputs. -/
def proofs (premint : Premint S) (promises : List (Promise S)) (keys : Keys S)
    (checked : Bool) : Except Blind.Error (List (Proof S)) :=
  Proof.ofPromises promises premint.factors premint.secrets keys checked

end Premint

end Chaumian
