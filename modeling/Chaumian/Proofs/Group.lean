import Chaumian.Proofs.Outcome
import Chaumian.Proofs.Scalars
import Chaumian.Key

/-!
# The laws of a group

A suite only has operations. That these are the operations of a group of prime order is said by
`Suite.Laws`: there is a group whose elements other than zero the points are, so that an operation
that leads to zero is one that has no answer. Scalars may then be reduced by the order, and a
multiple of a point is never zero.
-/

namespace Chaumian

/-! ## Numbers and their remainders -/

namespace Scalar

variable {G : Type} [AddCommGroup G] {order : Nat} {g : G}

/-- Where the order takes an element to zero, a number does to it what its remainder does. -/
theorem mod_nsmul (torsion : order • g = 0) (n : Nat) : (n % order) • g = n • g := by
  refine nsmul_eq_nsmul_iff_modEq.2 ((Nat.mod_modEq n order).of_dvd ?_)
  exact addOrderOf_dvd_iff_nsmul_eq_zero.2 torsion

theorem val_of_ofNat? {n : Nat} {k : Scalar order} (h : ofNat? order n = some k) : k.val = n := by
  unfold ofNat? at h
  split at h
  · cases h
    rfl
  · cases h

theorem val_of_reduce? {n : Nat} {k : Scalar order} (h : reduce? order n = some k) :
    k.val = n % order :=
  val_of_ofNat? h

theorem reduce?_of_lt {n : Nat} (pos : 0 < n) (lt : n < order) :
    reduce? order n = some ⟨n, pos, lt⟩ := by
  rw [reduce?, Nat.mod_eq_of_lt lt]
  exact dif_pos ⟨pos, lt⟩

theorem nsmul_of_add? (torsion : order • g = 0) {k l s : Scalar order} (h : k.add? l = some s) :
    s.val • g = k.val • g + l.val • g := by
  rw [val_of_reduce? h, mod_nsmul torsion, add_nsmul]

theorem nsmul_of_mul? (torsion : order • g = 0) {k l s : Scalar order} (h : k.mul? l = some s) :
    s.val • g = k.val • l.val • g := by
  rw [val_of_reduce? h, mod_nsmul torsion, mul_nsmul']

end Scalar

/-! ## The group of a suite -/

/-- The points of a suite as elements of a group, all of them but zero. -/
structure Suite.Laws (S : Suite) (G : Type) [AddCommGroup G] where
  element : S.Point → G
  injective : Function.Injective element
  ne_zero : ∀ p, element p ≠ 0
  prime : S.order.Prime
  torsion : ∀ p, S.order • element p = 0
  add : ∀ p q, (S.add? p q).elim 0 element = element p + element q
  neg : ∀ p, element (S.neg p) = -element p
  mul : ∀ (k : S.Scalar) p, (S.mul? k p).elim 0 element = k.val • element p
  generator : S.Point
  base : ∀ k : S.Scalar, element (S.base k) = k.val • element generator

namespace Suite.Laws

variable {S : Suite} {G : Type} [AddCommGroup G] (laws : S.Laws G)

include laws

/-- An operation whose result in the group is no zero answers with the point of that result. -/
theorem eq_ok_iff {o : Option S.Point} {e : CurveError} {g : G} {r : S.Point}
    (h : o.elim 0 laws.element = g) :
    o.elim (.error e) Except.ok = .ok r ↔ laws.element r = g := by
  rw [elim_eq_ok, ← h]
  constructor
  · rintro rfl
    rfl
  · intro same
    cases o with
    | none => exact absurd same (laws.ne_zero r)
    | some q => exact congrArg some (laws.injective same).symm

theorem add_eq_ok {p q r : S.Point} :
    S.add p q = .ok r ↔ laws.element r = laws.element p + laws.element q :=
  laws.eq_ok_iff (laws.add p q)

theorem sub_eq_ok {p q r : S.Point} :
    S.sub p q = .ok r ↔ laws.element r = laws.element p - laws.element q := by
  rw [Suite.sub, laws.add_eq_ok, laws.neg, sub_eq_add_neg]

theorem mul_eq_ok {k : S.Scalar} {p r : S.Point} :
    S.mul k p = .ok r ↔ laws.element r = k.val • laws.element p :=
  laws.eq_ok_iff (laws.mul k p)

theorem mul_generator (k : S.Scalar) : S.mul k laws.generator = .ok (S.base k) :=
  laws.mul_eq_ok.2 (laws.base k)

/-- The order of each point is that of the suite, as this is a prime. -/
theorem addOrderOf_element (p : S.Point) : addOrderOf (laws.element p) = S.order := by
  have divides := addOrderOf_dvd_iff_nsmul_eq_zero.2 (laws.torsion p)
  refine ((Nat.dvd_prime laws.prime).1 divides).resolve_left fun one => laws.ne_zero p ?_
  exact AddMonoid.addOrderOf_eq_one_iff.1 one

/-- Different scalars take a point to different multiples. -/
theorem nsmul_element_inj {k l : S.Scalar} {p : S.Point} :
    k.val • laws.element p = l.val • laws.element p ↔ k = l := by
  rw [nsmul_eq_nsmul_iff_modEq, laws.addOrderOf_element]
  exact ⟨fun same => Scalar.ext (same.eq_of_lt_of_lt k.lt l.lt), fun same => same ▸ rfl⟩

/-- A multiple of a point by a scalar is a point: the scalar is below the order. -/
theorem nsmul_ne_zero (k : S.Scalar) (p : S.Point) : k.val • laws.element p ≠ 0 := by
  intro zero
  have divides := addOrderOf_dvd_iff_nsmul_eq_zero.2 zero
  rw [laws.addOrderOf_element] at divides
  exact absurd (Nat.le_of_dvd k.pos divides) (Nat.not_le.2 k.lt)

/-- So it can always be taken. -/
theorem exists_mul (k : S.Scalar) (p : S.Point) : ∃ q, S.mul k p = .ok q := by
  rcases known : S.mul? k p with _ | q
  · have zero := laws.mul k p
    rw [known] at zero
    exact absurd zero.symm (laws.nsmul_ne_zero k p)
  · exact ⟨q, by rw [Suite.mul, known]; rfl⟩

/-- The sum of two points can be taken unless it is zero. -/
theorem exists_add_iff {p q : S.Point} :
    (∃ r, S.add p q = .ok r) ↔ laws.element p + laws.element q ≠ 0 := by
  constructor
  · rintro ⟨r, sum⟩
    rw [← laws.add_eq_ok.1 sum]
    exact laws.ne_zero r
  · intro some
    rcases sum : S.add? p q with _ | r
    · refine absurd (laws.add p q).symm ?_
      rw [sum]
      exact some
    · exact ⟨r, by rw [Suite.add, sum]; rfl⟩

end Suite.Laws

/-! ## The same group with other encodings -/

/-- The suite of the same group with other encodings and challenges. -/
def Suite.recoded (S : Suite) (compress : S.Point → Bytes) (decompress? : Bytes → Option S.Point)
    (challenge : List S.Point → Nat) : Suite :=
  { S with compress, decompress?, challenge }

/-- They are no matter of the laws. -/
def Suite.Laws.recoded {S : Suite} {G : Type} [AddCommGroup G] (laws : S.Laws G)
    (compress : S.Point → Bytes) (decompress? : Bytes → Option S.Point)
    (challenge : List S.Point → Nat) : (S.recoded compress decompress? challenge).Laws G :=
  { laws with }

/-! ## The scalars of a prime order -/

section

variable {order : Nat} [Fact order.Prime]

theorem Scalar.elim_reduce? (n : Nat) :
    (reduce? order n).elim 0 (fun k => (k.val : ZMod order)) = n := by
  rw [reduce?, ofNat?]
  by_cases zero : n % order = 0
  · rw [zero, dif_neg (by omega)]
    exact ((ZMod.natCast_eq_zero_iff _ _).2 (Nat.dvd_of_mod_eq_zero zero)).symm
  · rw [dif_pos ⟨Nat.pos_of_ne_zero zero, Nat.mod_lt _ (NeZero.pos order)⟩]
    exact ZMod.natCast_mod n order

/-- They obey the laws of a group, with 1 for a generator. -/
def Suite.lawsOfScalars (order_le : order ≤ Nat.pow 2 256) :
    (Suite.scalars order order_le).Laws (ZMod order) where
  element p := p.val
  injective p q same := by
    have same := (ZMod.natCast_eq_natCast_iff' _ _ _).1 same
    rw [Nat.mod_eq_of_lt p.lt, Nat.mod_eq_of_lt q.lt] at same
    exact Scalar.ext same
  ne_zero p zero := by
    have divides := (ZMod.natCast_eq_zero_iff _ _).1 zero
    exact absurd (Nat.le_of_dvd p.pos divides) (Nat.not_le.2 p.lt)
  prime := (Fact.out : order.Prime)
  torsion p := by
    show order • _ = _
    rw [nsmul_eq_mul, ZMod.natCast_self, zero_mul]
  add p q := (Scalar.elim_reduce? _).trans (Nat.cast_add _ _)
  neg p := by
    show ((order - p.val : Nat) : ZMod order) = _
    rw [Nat.cast_sub (Nat.le_of_lt p.lt), ZMod.natCast_self, zero_sub]
  mul k p := by
    refine (Scalar.elim_reduce? _).trans ?_
    rw [nsmul_eq_mul]
    exact Nat.cast_mul _ _
  generator := ⟨1, Nat.one_pos, (Fact.out : order.Prime).one_lt⟩
  base k := by
    rw [Nat.cast_one, nsmul_one]
    rfl

end

end Chaumian
