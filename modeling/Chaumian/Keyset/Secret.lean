import Chaumian.Keyset.Basic

/-!
Keysets on the mint's side, with their secret keys, which follow from a seed.
-/

namespace Chaumian

/-- A secret key and its public key. -/
structure KeyPair (S : Suite) where
  secretKey : S.Scalar
  publicKey : S.Point
  publicKey_eq : publicKey = S.base secretKey

/-- The pair of a secret key. -/
def KeyPair.ofSecret {S : Suite} (k : S.Scalar) : KeyPair S := ⟨k, S.base k, rfl⟩

/-- A keyset with its secret keys, smallest amount first. -/
structure SecretKeyset (S : Suite) where
  id : KeysetId
  entries : List (Amount × KeyPair S)

namespace SecretKeyset

variable {S : Suite}

/-- The public keys of key pairs. -/
def publicKeys (entries : List (Amount × KeyPair S)) : Keys S :=
  .ofList (entries.map fun (amount, pair) => (amount, pair.publicKey))

/-- The secret key of the denomination `2 ^ order`: the digest of the seed, the path and the
order. -/
def derive (S : Suite) (seed path : String) (order : Nat) : Except Key.Error S.Scalar :=
  Key.secretOfBytes S (Sha256.hash (Bytes.ofText (seed ++ path ++ toString order)))

/-- The keyset of a seed and a path, with keys for the given denominations. -/
def generate (S : Suite) (seed path : String) (d : Denominations) :
    Except Key.Error (SecretKeyset S) := do
  let entries ← (List.range d.order).mapM fun order => do
    return (Amount.clamp (Nat.pow 2 order), .ofSecret (← derive S seed path order))
  return ⟨(publicKeys entries).id, entries⟩

/-- The published half of a keyset. -/
def toPublic (keyset : SecretKeyset S) : Keyset S := ⟨keyset.id, publicKeys keyset.entries⟩

/-- The key pair of an amount. -/
def get? (keyset : SecretKeyset S) (amount : Amount) : Option (KeyPair S) :=
  (keyset.entries.find? (·.1 = amount)).map (·.2)

end SecretKeyset

end Chaumian
