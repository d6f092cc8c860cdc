import Chaumian.Keyset.Secret
import Chaumian.Proof

/-!
# The scalars as a group

The numbers from 1 up to an order, added modulo the order, are the elements of a suite whose
discrete logarithms are no secret. The examples of runs are told in it.
-/

namespace Chaumian.Suite

/-- The suite of the scalars of an order. A message is mapped to the number its bytes spell, and the
challenge over elements follows from their sum. -/
def scalars (order : Nat) (order_le : order ≤ Nat.pow 2 256) : Suite where
  order := order
  order_le := order_le
  Point := Chaumian.Scalar order
  decEq := inferInstance
  add? := Scalar.add?
  neg p := ⟨order - p.val, Nat.sub_pos_of_lt p.lt, Nat.sub_lt (Nat.lt_trans p.pos p.lt) p.pos⟩
  mul? := Scalar.mul?
  base k := k
  compress := Scalar.toBytes
  expand := Scalar.toBytes
  decompress? bytes := Scalar.ofNat? order bytes.toNat
  hashToPoint? message := Scalar.reduce? order message.toNat
  challenge ps := (ps.foldl (fun n p => n + p.val) 0) % (order - 1) + 1

end Chaumian.Suite

/-! ## A keyset and proofs to run examples with -/

namespace Chaumian.Sample

/-- The scalars of the prime 251. -/
abbrev suite : Suite := .scalars 251 (by decide)

/-- The scalar of a number. -/
def scalar (n : Nat) : suite.Scalar :=
  ⟨n % 250 + 1, Nat.succ_pos _, Nat.succ_lt_succ (Nat.mod_lt n (by decide))⟩

/-- The keyset of the sample mint, with keys for the amounts 1 to 8, under the identifier that
follows from its keys. -/
def secretKeyset : SecretKeyset suite :=
  ⟨⟨[83, 85, 188, 133, 47, 45, 225, 98, 169], rfl⟩,
    [1, 2, 4, 8].map fun n => (Amount.clamp n, KeyPair.ofSecret (scalar (10 * n)))⟩

/-- Its published half. -/
def keyset : Keyset suite := secretKeyset.toPublic

/-- The secret of a letter. -/
def secret (n : Nat) : Secret := ⟨String.singleton (Char.ofNat (97 + n))⟩

/-- The point of the secret of a letter. -/
def point (n : Nat) : suite.Point := scalar (96 + n)

/-- A proof of an amount with the secret of a letter. -/
def proof (amount n : Nat) : Proof suite :=
  ⟨Amount.clamp amount, keyset.id, secret n,
    ((secretKeyset.get? (Amount.clamp amount)).bind fun pair =>
      suite.mul? pair.secretKey (point n)).getD (scalar 0), none⟩

/-- An output for an amount. -/
def output (amount n : Nat) : Output suite := ⟨Amount.clamp amount, keyset.id, scalar n⟩

end Chaumian.Sample
