import Chaumian.Proofs.Token
import Chaumian.Secp256k1.HashToCurve
import Mathlib.FieldTheory.Finite.Basic
import Mathlib.NumberTheory.LucasPrimality
import Mathlib.Tactic.NormNum.Prime
import Mathlib.Tactic.ReduceModChar

/-!
# The short encoding of a point of secp256k1 is decoded as the point

A point is encoded as its first coordinate and the parity of its second one. What decodes it takes
a square root of the right-hand side of the curve's equation as a power. As the size of the field is
a prime that is 3 modulo 4, that power is a root wherever there is one, so it is the second
coordinate or the inverse of it. As the size is odd, these two differ in parity unless both are
zero, and the parity in the encoding tells which was meant.

So secp256k1 meets `Suite.Encodes`, which the theorems about what is sent in JSON ask of a suite.
-/

namespace Chaumian

open scoped Fin.CommRing

/-- Squaring computes the power of a monoid. -/
theorem power_eq_pow {M : Type*} [Monoid M] (a : M) (e : Nat) : power 1 a e = a ^ e := by
  induction e using Nat.strongRecOn with
  | ind e ih =>
    rw [power]
    split_ifs with none odd
    · rw [none, pow_zero]
    · have whole : e / 2 + e / 2 + 1 = e := by omega
      rw [ih (e / 2) (by omega)]
      dsimp only
      rw [← pow_add, ← pow_succ, whole]
    · have whole : e / 2 + e / 2 = e := by omega
      rw [ih (e / 2) (by omega)]
      dsimp only
      rw [← pow_add, whole]

namespace Secp256k1

/-! ## The size of the field is a prime -/

/-- A number is prime if some residue has the order `p - 1`: its power `p - 1` is one, but no power
that falls short of that by a prime factor is. -/
theorem prime_of_factors {p : Nat} (a : ZMod p) (factors : List Nat)
    (product : factors.prod = p - 1) (primes : ∀ q ∈ factors, q.Prime)
    (whole : a ^ (p - 1) = 1) (parts : ∀ q ∈ factors, a ^ ((p - 1) / q) ≠ 1) : p.Prime := by
  refine lucas_primality p a whole fun q prime divides => ?_
  rw [← product, prime.prime.dvd_prod_iff] at divides
  obtain ⟨r, mem, divides⟩ := divides
  obtain rfl := (Nat.prime_dvd_prime_iff_eq prime (primes r mem)).1 divides
  exact parts q mem

-- The certificate of `fieldSize`: each prime names those among the factors of its predecessor
-- that are too large to be tried out, and these come before it.

theorem prime_173378833005251801 : Nat.Prime 173378833005251801 := by
  refine prime_of_factors 6 [2, 2, 2, 5, 5, 2621, 24809, 13331831] (by norm_num) (by norm_num) ?_ ?_
  · norm_num
    reduce_mod_char
  · simp only [List.forall_mem_cons, List.not_mem_nil]
    norm_num
    reduce_mod_char
    decide

theorem prime_22149492674086928081353 : Nat.Prime 22149492674086928081353 := by
  refine prime_of_factors 5 [2, 2, 2, 3, 5323, 173378833005251801] (by norm_num) ?_ ?_ ?_
  · simp only [List.forall_mem_cons, prime_173378833005251801]
    norm_num
  · norm_num
    reduce_mod_char
  · simp only [List.forall_mem_cons, List.not_mem_nil]
    norm_num
    reduce_mod_char
    decide

theorem prime_132896956044521568488119 : Nat.Prime 132896956044521568488119 := by
  refine prime_of_factors 6 [2, 3, 22149492674086928081353] (by norm_num) ?_ ?_ ?_
  · simp only [List.forall_mem_cons, prime_22149492674086928081353]
    norm_num
  · norm_num
    reduce_mod_char
  · simp only [List.forall_mem_cons, List.not_mem_nil]
    norm_num
    reduce_mod_char
    decide

theorem prime_255515944373312847190720520512484175977 :
    Nat.Prime 255515944373312847190720520512484175977 := by
  refine prime_of_factors 3
    [2, 2, 2, 7, 7, 11, 1627, 2657, 4423, 41201, 96557, 7240687, 107590001]
    (by norm_num) (by norm_num) ?_ ?_
  · norm_num
    reduce_mod_char
  · simp only [List.forall_mem_cons, List.not_mem_nil]
    norm_num
    reduce_mod_char
    decide

theorem prime_205115282021455665897114700593932402728804164701536103180137503955397371 :
    Nat.Prime 205115282021455665897114700593932402728804164701536103180137503955397371 := by
  refine prime_of_factors 10
    [2, 3, 5, 29, 29, 31, 7723, 132896956044521568488119, 255515944373312847190720520512484175977]
    (by norm_num) ?_ ?_ ?_
  · simp only [List.forall_mem_cons, prime_132896956044521568488119,
      prime_255515944373312847190720520512484175977]
    norm_num
  · norm_num
    reduce_mod_char
  · simp only [List.forall_mem_cons, List.not_mem_nil]
    norm_num
    reduce_mod_char
    decide

theorem prime_fieldSize : fieldSize.Prime := by
  refine prime_of_factors 3
    [2, 3, 7, 13441, 205115282021455665897114700593932402728804164701536103180137503955397371]
    (by norm_num) ?_ ?_ ?_
  · simp only [List.forall_mem_cons,
      prime_205115282021455665897114700593932402728804164701536103180137503955397371]
    norm_num
  · norm_num
    reduce_mod_char
  · simp only [List.forall_mem_cons, List.not_mem_nil]
    norm_num
    reduce_mod_char
    decide

instance : Fact fieldSize.Prime := ⟨prime_fieldSize⟩

/-! ## Square roots -/

namespace Field

theorem neZero_fieldSize : NeZero fieldSize := ⟨by decide⟩

/-- The element as a residue. -/
def toZMod : Field ≃+* ZMod fieldSize := @ZMod.finEquiv fieldSize neZero_fieldSize

/-- The power that is taken for a root of a square is one. -/
theorem squareRoot?_mul_self (y : Field) :
    ∃ root, (y * y).squareRoot? = some root ∧ (root = y ∨ root = -y) := by
  let root : Field := power one (y * y) ((fieldSize + 1) / 4)
  have value : root = (y * y) ^ ((fieldSize + 1) / 4) := power_eq_pow _ _
  -- Twice the exponent is one more than the size, and the power of the size is the element itself.
  have square : root * root = y * y := by
    apply toZMod.injective
    rw [value, ← pow_two y, ← pow_mul, ← pow_add, map_pow, map_pow]
    have whole : 2 * ((fieldSize + 1) / 4) + 2 * ((fieldSize + 1) / 4) = fieldSize + 1 := by decide
    rw [whole, pow_succ, ZMod.pow_card, pow_two]
  refine ⟨root, if_pos square, ?_⟩
  have images : toZMod root * toZMod root = toZMod y * toZMod y := by
    rw [← map_mul, square, map_mul]
  rcases mul_self_eq_mul_self_iff.1 images with same | opposite
  · exact .inl (toZMod.injective same)
  · exact .inr (toZMod.injective (opposite.trans (map_neg toZMod y).symm))

/-- An element and its inverse differ in parity unless they are zero. -/
theorem isOdd_neg {y : Field} (some : y ≠ 0) : (-y).isOdd = !y.isOdd := by
  have positive : 0 < y.val := Nat.pos_of_ne_zero fun zero => some (Fin.ext zero)
  have below := y.isLt
  have odd : fieldSize % 2 = 1 := by decide
  have value : (-y).val = fieldSize - y.val := by
    rw [Fin.val_neg', Nat.mod_eq_of_lt (by omega)]
  rw [isOdd, isOdd, value, ← decide_not, decide_eq_decide]
  omega

end Field

/-! ## Points -/

namespace Point

/-- A point is found from its first coordinate and the parity of its second one. -/
theorem lift?_isOdd (p : Point) : lift? p.x p.y.isOdd = some p := by
  obtain ⟨root, taken, found⟩ := Field.squareRoot?_mul_self p.y
  have chosen : (if root.isOdd = p.y.isOdd then root else -root) = p.y := by
    rcases found with rfl | rfl
    · exact if_pos rfl
    · split_ifs with same
      · by_contra other
        refine Bool.not_ne_self p.y.isOdd (Eq.trans (Field.isOdd_neg fun zero => other ?_).symm same)
        rw [zero, neg_zero]
      · exact neg_neg p.y
  unfold lift?
  rw [← p.onCurve, taken]
  dsimp only [Option.bind_eq_bind, Option.bind_some]
  rw [chosen, if_pos rfl]
  exact dif_pos p.onCurve

theorem length_compress (p : Point) : p.compress.length = Key.publicSize := by
  rw [compress, List.length_cons, Field.toBytes, Bytes.length_ofNat, Key.publicSize]

theorem decompress?_compress (p : Point) : decompress? p.compress = some p := by
  have number : p.x.toBytes.toNat = p.x.val :=
    Bytes.toNat_ofNat (p.x.isLt.trans (by decide))
  have length : p.x.toBytes.length = 32 := Bytes.length_ofNat 32 p.x.val
  have known : Field.ofNat p.x.val = p.x := Fin.ofNat_val_eq_self p.x
  have sized : ¬(p.x.toBytes.length ≠ 32 ∨ p.x.toBytes.toNat ≥ fieldSize) := by
    rw [number, length]
    have below := p.x.isLt
    omega
  rw [compress, decompress?, if_neg sized, number, known]
  have lifted := lift?_isOdd p
  cases parity : p.y.isOdd with
  | false =>
    rw [parity] at lifted
    exact (if_pos rfl).trans lifted
  | true =>
    rw [parity] at lifted
    exact (if_neg (by decide)).trans ((if_pos rfl).trans lifted)

end Point

end Secp256k1

theorem Suite.encodes_secp256k1 : Suite.secp256k1.Encodes where
  length := by
    dsimp only [Suite.secp256k1]
    exact Secp256k1.Point.length_compress
  decompress := by
    dsimp only [Suite.secp256k1]
    exact Secp256k1.Point.decompress?_compress

end Chaumian
