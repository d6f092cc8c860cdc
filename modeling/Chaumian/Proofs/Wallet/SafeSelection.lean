import Chaumian.Proofs.Scalars
import Chaumian.Proofs.Wallet.Selection

/-!
# Coin selection is safe for any amounts

The amounts need not be powers of two here, so what is selected need not be the best there is; but
nothing goes wrong either. `selectToCover_safe` says, for proofs whose value fits in 64 bits:

* a selection is refused exactly for a target beyond that value, and neither pass ever comes to
  nothing;
* both passes can be run on numbers of 64 bits: no sum or product is too large on the way, and no
  difference is below nothing (`coveringTotalInWords?_eq`, `takeFittingInWords?_eq`);
* the proofs selected cover the target, and without a largest one of them they do not;
* the order of the available proofs makes no difference to the amounts selected, since both passes
  see only how many proofs of each amount there are (`Pile.shapes_perm`).
-/

namespace Chaumian.Wallet

variable {S : Suite} {available : List (Proof S)} {pile : Pile S} {piles : List (Pile S)}

/-! ## The passes on numbers of 64 bits -/

/-- A sum or a product, unless it needs more than 64 bits. -/
def word? (n : Nat) : Option Nat := if n < 2 ^ 64 then some n else none

/-- A difference, unless it is below nothing. -/
def difference? (n m : Nat) : Option Nat := if m ≤ n then some (n - m) else none

/-- A quotient, unless it is by nothing. -/
def quotient? (n m : Nat) : Option Nat := if m = 0 then none else some (n / m)

theorem word?_of_lt {n : Nat} (fits : n < 2 ^ 64) : word? n = some n := if_pos fits

theorem difference?_of_le {n m : Nat} (le : m ≤ n) : difference? n m = some (n - m) := if_pos le

theorem quotient?_of_pos {n m : Nat} (positive : 0 < m) : quotient? n m = some (n / m) :=
  if_neg (Nat.ne_of_gt positive)

/-- The smallest excess found, where a pile with proofs left over offers one more of them. -/
def offeredInWords? (count amount take taken : Nat) (best : Option Nat) : Option (Option Nat) :=
  if take < count then do
    let more ← word? (take + 1)
    let part ← word? (more * amount)
    let candidate ← word? (taken + part)
    some (smaller best candidate)
  else some best

/-- The first pass on numbers of 64 bits: nothing, as soon as one of them does not fit. -/
def coveringTotalInWords? (target : Nat) : (piles : List (Pile S)) → (remaining taken : Nat) →
    (best : Option Nat) → Option (Option Nat)
  | [], _, _, best => some best
  | pile :: rest, remaining, taken, best => do
    let count ← word? pile.proofs.length
    let most ← quotient? remaining pile.amount
    let take := min count most
    let best ← offeredInWords? count pile.amount take taken best
    let part ← word? (take * pile.amount)
    let taken ← word? (taken + part)
    let remaining ← difference? remaining part
    if remaining = 0 then some (some target)
    else coveringTotalInWords? target rest remaining taken best

/-- The second pass on numbers of 64 bits, which stops when nothing remains. -/
def takeFittingInWords? : (piles : List (Pile S)) → (remaining : Nat) →
    Option (List (Proof S) × Nat)
  | [], remaining => some ([], remaining)
  | pile :: rest, remaining => do
    let count ← word? pile.proofs.length
    let most ← quotient? remaining pile.amount
    let take := min count most
    let part ← word? (take * pile.amount)
    let remaining ← difference? remaining part
    if remaining = 0 then some (pile.proofs.take take, 0)
    else do
      let (selected, uncovered) ← takeFittingInWords? rest remaining
      some (pile.proofs.take take ++ selected, uncovered)

theorem offeredInWords?_eq {count amount taken : Nat} (positive : 0 < amount)
    (fits : taken + count * amount < 2 ^ 64) (take : Nat) (best : Option Nat) :
    offeredInWords? count amount take taken best =
      some (if take < count then smaller best (taken + (take + 1) * amount) else best) := by
  rw [offeredInWords?]
  split
  · rename_i left
    have part : (take + 1) * amount ≤ count * amount := Nat.mul_le_mul_right _ left
    have more : take + 1 ≤ (take + 1) * amount := Nat.le_mul_of_pos_right _ positive
    simp only [word?_of_lt (by omega : take + 1 < 2 ^ 64), Option.bind_eq_bind, Option.bind_some,
      word?_of_lt (by omega : (take + 1) * amount < 2 ^ 64),
      word?_of_lt (by omega : taken + (take + 1) * amount < 2 ^ 64)]
  · rfl

/-- In the first pass every number fits, as what a pile offers is never worth more than all its
proofs. -/
theorem coveringTotalInWords?_eq (h : ∀ pile ∈ piles, pile.Of available)
    {target remaining taken : Nat} {best : Option Nat} (all : remaining + taken = target)
    (fits : taken + Proof.exactTotal (piles.flatMap (·.proofs)) < 2 ^ 64) :
    coveringTotalInWords? target piles remaining taken best =
      some (coveringTotal? piles remaining taken best) := by
  induction piles generalizing remaining taken best with
  | nil => rfl
  | cons pile rest ih =>
    have first := h pile List.mem_cons_self
    have others := fun other mem => h other (List.mem_cons_of_mem _ mem)
    rw [List.flatMap_cons, Proof.exactTotal_append, first.exactTotal_proofs] at fits
    have count : pile.proofs.length ≤ pile.proofs.length * pile.amount :=
      Nat.le_mul_of_pos_right _ first.positive
    have worth := Nat.mul_le_mul_right pile.amount (pile.fitting_le remaining)
    have part := pile.fitting_mul_le remaining
    have kept := pile.remaining_add_taken remaining taken
    have take : min pile.proofs.length (remaining / pile.amount) = pile.fitting remaining := rfl
    have offered := offeredInWords?_eq first.positive
      (by omega : taken + pile.proofs.length * pile.amount < 2 ^ 64) (pile.fitting remaining) best
    simp only [coveringTotalInWords?, coveringTotal?, Option.bind_eq_bind, Option.bind_some,
      word?_of_lt (by omega : pile.proofs.length < 2 ^ 64), quotient?_of_pos first.positive, take,
      offered,
      word?_of_lt (by omega : pile.fitting remaining * pile.amount < 2 ^ 64),
      word?_of_lt (by omega : taken + pile.fitting remaining * pile.amount < 2 ^ 64),
      difference?_of_le part]
    split
    · exact congrArg (fun total => some (some total)) (by omega)
    · exact ih others (kept.trans all) (by omega)

/-- In the second pass every number fits, as no more proofs of a pile are taken than it has. -/
theorem takeFittingInWords?_eq (h : ∀ pile ∈ piles, pile.Of available) (remaining : Nat)
    (fits : Proof.exactTotal (piles.flatMap (·.proofs)) < 2 ^ 64) :
    takeFittingInWords? piles remaining = some (takeFitting piles remaining) := by
  induction piles generalizing remaining with
  | nil => rfl
  | cons pile rest ih =>
    have first := h pile List.mem_cons_self
    have others := fun other mem => h other (List.mem_cons_of_mem _ mem)
    rw [List.flatMap_cons, Proof.exactTotal_append, first.exactTotal_proofs] at fits
    have count : pile.proofs.length ≤ pile.proofs.length * pile.amount :=
      Nat.le_mul_of_pos_right _ first.positive
    have worth := Nat.mul_le_mul_right pile.amount (pile.fitting_le remaining)
    have part := pile.fitting_mul_le remaining
    have take : min pile.proofs.length (remaining / pile.amount) = pile.fitting remaining := rfl
    simp only [takeFittingInWords?, takeFitting, Option.bind_eq_bind, Option.bind_some,
      word?_of_lt (by omega : pile.proofs.length < 2 ^ 64), quotient?_of_pos first.positive, take,
      word?_of_lt (by omega : pile.fitting remaining * pile.amount < 2 ^ 64),
      difference?_of_le part]
    split
    · rename_i none
      simp only [none, takeFitting_zero, List.append_nil]
    · rw [ih others _ (by omega)]
      rfl

/-! ## Only the number of proofs of each amount counts -/

namespace Pile

/-- An amount, and how many proofs of it there are. -/
def shape (pile : Pile S) : Nat × Nat := (pile.amount, pile.proofs.length)

/-- One more proof of an amount, among the shapes of piles. -/
def tally (n : Nat) : List (Nat × Nat) → List (Nat × Nat)
  | [] => [(n, 1)]
  | (amount, count) :: rest =>
    if amount = n then (amount, count + 1) :: rest
    else if amount < n then (n, 1) :: (amount, count) :: rest
    else (amount, count) :: tally n rest

theorem map_shape_add (p : Proof S) (piles : List (Pile S)) :
    (add p piles).map shape = tally p.amount.toNat (piles.map shape) := by
  induction piles with
  | nil => rfl
  | cons pile rest ih =>
    simp only [add, List.map_cons, shape, tally]
    split
    · simp [shape]
    · split
      · rfl
      · rw [List.map_cons, ih]
        rfl

theorem tally_comm (n m : Nat) (shapes : List (Nat × Nat)) :
    tally n (tally m shapes) = tally m (tally n shapes) := by
  induction shapes with
  | nil =>
    simp only [tally]
    grind [tally]
  | cons shape rest ih =>
    obtain ⟨amount, count⟩ := shape
    grind [tally]

theorem map_shape_ofProofs (available : List (Proof S)) :
    (ofProofs available).map shape =
      ((available.map (·.amount.toNat)).filter (· ≠ 0)).foldl (fun shapes n => tally n shapes) [] := by
  have general (proofs : List (Proof S)) (piles : List (Pile S)) :
      (proofs.foldl (fun piles p => add p piles) piles).map shape =
        (proofs.map (·.amount.toNat)).foldl (fun shapes n => tally n shapes) (piles.map shape) := by
    induction proofs generalizing piles with
    | nil => rfl
    | cons p rest ih =>
      rw [List.foldl_cons, ih, map_shape_add]
      rfl
  rw [ofProofs, general, List.filter_map]
  rfl

/-- The shapes of the piles do not depend on the order of the proofs. -/
theorem shapes_perm {other : List (Proof S)} (same : other.Perm available) :
    (ofProofs other).map shape = (ofProofs available).map shape := by
  rw [map_shape_ofProofs, map_shape_ofProofs]
  exact ((same.map _).filter _).foldl_eq' (fun n _ m _ shapes => tally_comm m n shapes) []

end Pile

/-- The first pass sees only the shapes of the piles. -/
theorem coveringTotal?_congr {others : List (Pile S)}
    (same : piles.map Pile.shape = others.map Pile.shape) (remaining taken : Nat)
    (best : Option Nat) :
    coveringTotal? piles remaining taken best = coveringTotal? others remaining taken best := by
  induction piles generalizing others remaining taken best with
  | nil => rw [List.map_eq_nil_iff.1 same.symm]
  | cons pile rest ih =>
    obtain ⟨other, others, rfl, first, later⟩ := List.map_eq_cons_iff.1 same.symm
    obtain ⟨amount, count⟩ := Prod.mk.inj first
    have fitting : other.fitting remaining = pile.fitting remaining := by
      rw [Pile.fitting, Pile.fitting, amount, count]
    rw [coveringTotal?, coveringTotal?]
    simp only [fitting, amount, count, ih later.symm]

theorem Pile.Of.map_amount_take (h : pile.Of available) (n : Nat) :
    (pile.proofs.take n).map (·.amount.toNat) =
      List.replicate (min n pile.proofs.length) pile.amount := by
  rw [List.map_congr_left fun p mem => h.amount p (List.mem_of_mem_take mem), List.map_const',
    List.length_take]

/-- The amounts that the second pass takes depend only on the shapes of the piles. -/
theorem map_amount_takeFitting {available' : List (Proof S)} {others : List (Pile S)}
    (h : ∀ pile ∈ piles, pile.Of available) (h' : ∀ pile ∈ others, pile.Of available')
    (same : piles.map Pile.shape = others.map Pile.shape) (n : Nat) :
    (takeFitting piles n).1.map (·.amount.toNat) =
      (takeFitting others n).1.map (·.amount.toNat) := by
  induction piles generalizing others n with
  | nil => rw [List.map_eq_nil_iff.1 same.symm]
  | cons pile rest ih =>
    obtain ⟨other, others, rfl, first, later⟩ := List.map_eq_cons_iff.1 same.symm
    obtain ⟨amount, count⟩ := Prod.mk.inj first
    obtain ⟨own, h⟩ := List.forall_mem_cons.1 h
    obtain ⟨own', h'⟩ := List.forall_mem_cons.1 h'
    simp only [takeFitting, Pile.fitting, List.map_append, own.map_amount_take,
      own'.map_amount_take, amount, count, ih h h' later.symm]

/-- Sorting brings the same amounts into the same order. -/
theorem map_amount_sortByAmount {proofs others : List (Proof S)}
    (same : proofs.map (·.amount.toNat) = others.map (·.amount.toNat)) :
    (Proof.sortByAmount proofs).map (·.amount) = (Proof.sortByAmount others).map (·.amount) := by
  refine List.map_injective_iff.2 (fun _ _ => Amount.ext) ?_
  rw [List.map_map, List.map_map]
  have perm : ((Proof.sortByAmount proofs).map (·.amount.toNat)).Perm
      ((Proof.sortByAmount others).map (·.amount.toNat)) :=
    ((Proof.sortByAmount_perm proofs).map _).trans
      (same ▸ ((Proof.sortByAmount_perm others).map _).symm)
  exact perm.eq_of_pairwise (fun _ _ _ _ => Nat.le_antisymm)
    (List.pairwise_map.2 (Proof.pairwise_sortByAmount proofs))
    (List.pairwise_map.2 (Proof.pairwise_sortByAmount others))

/-! ## The selection -/

/-- What makes it safe to select proofs for a target. -/
structure Safe (available : List (Proof S)) (target : Amount) : Prop where
  refused : selectToCover available target = .error .insufficientBalance ↔
    Proof.exactTotal available < target.toNat
  selected : target.toNat ≤ Proof.exactTotal available →
    ∃ selected, selectToCover available target = .ok selected
  /-- The first pass finds a value, and the second one leaves nothing of it uncovered. -/
  reached : 0 < target.toNat → target.toNat ≤ Proof.exactTotal available →
    ∃ goal, coveringTotal? (Pile.ofProofs available) target.toNat 0 none = some goal ∧
      (takeFitting (Pile.ofProofs available) goal).2 = 0
  /-- No number of the first pass needs more than 64 bits or is below nothing. -/
  coveringFits : coveringTotalInWords? target.toNat (Pile.ofProofs available) target.toNat 0 none =
    some (coveringTotal? (Pile.ofProofs available) target.toNat 0 none)
  /-- Nor does any of the second pass, whatever the value. -/
  takingFits : ∀ goal : Nat, takeFittingInWords? (Pile.ofProofs available) goal =
    some (takeFitting (Pile.ofProofs available) goal)
  covers : ∀ selected, selectToCover available target = .ok selected →
    target.toNat ≤ Proof.exactTotal selected
  /-- Leaving out a largest one of the proofs selected is too much. -/
  needed : 0 < target.toNat → ∀ selected, selectToCover available target = .ok selected →
    ∀ largest rest, selected.Perm (largest :: rest) →
      (∀ p ∈ rest, p.amount ≤ largest.amount) → Proof.exactTotal rest < target.toNat
  anyOrder : ∀ other : List (Proof S), other.Perm available →
    (selectToCover other target).map (·.map (·.amount)) =
      (selectToCover available target).map (·.map (·.amount))

/-- Without a largest one of them, the proofs selected do not cover the target. -/
theorem exactTotal_lt_of_selectToCover {target : Amount} {selected rest : List (Proof S)}
    {largest : Proof S} (positive : 0 < target.toNat)
    (h : selectToCover available target = .ok selected) (split : selected.Perm (largest :: rest))
    (most : ∀ p ∈ rest, p.amount ≤ largest.amount) :
    Proof.exactTotal rest < target.toNat := by
  have nonzero : target ≠ .zero := fun zero => Nat.ne_of_gt positive (congrArg Amount.toNat zero)
  obtain ⟨goal, found, used, rfl⟩ := exists_of_selectToCover nonzero h
  have piled := Pile.of_ofProofs available
  obtain ⟨p, mem, needed⟩ :=
    ((takeFitting_goal piled positive (by simp) found).resolve_left nofun).needed
  rw [Nat.sub_zero] at mem needed
  have split := (Proof.sortByAmount_perm _).symm.trans split
  have less : p.amount.toNat ≤ largest.amount.toNat := by
    obtain rfl | mem := List.mem_cons.1 (split.mem_iff.1 mem)
    · exact Nat.le_refl _
    · exact most p mem
  have worth := (takeFitting_total piled goal).1
  have all : Proof.exactTotal (largest :: rest) =
    largest.amount.toNat + Proof.exactTotal rest := rfl
  rw [Proof.exactTotal_perm split, used, all] at worth
  omega

/-- The amounts selected do not depend on the order of the available proofs. -/
theorem selectToCover_perm {other : List (Proof S)} (same : other.Perm available)
    (fits : Proof.exactTotal available < 2 ^ 64) (target : Amount) :
    (selectToCover other target).map (·.map (·.amount)) =
      (selectToCover available target).map (·.map (·.amount)) := by
  have equal := Proof.exactTotal_perm same
  have fits' : Proof.exactTotal other < 2 ^ 64 := equal ▸ fits
  obtain beyond | within := Nat.lt_or_ge (Proof.exactTotal available) target.toNat
  · have beyond' : Proof.exactTotal other < target.toNat := equal ▸ beyond
    rw [selectToCover_refused (Proof.total_of_lt fits) beyond,
      selectToCover_refused (Proof.total_of_lt fits') beyond']
  have within' : target.toNat ≤ Proof.exactTotal other := equal ▸ within
  obtain ⟨selected, selects⟩ := exists_selectToCover (Proof.total_of_lt fits) within
  obtain ⟨selected', selects'⟩ := exists_selectToCover (Proof.total_of_lt fits') within'
  by_cases zero : target = .zero
  · rw [zero, selectToCover_zero (Proof.total_of_lt fits),
      selectToCover_zero (Proof.total_of_lt fits')]
  obtain ⟨goal, found, -, rfl⟩ := exists_of_selectToCover zero selects
  obtain ⟨goal', found', -, rfl⟩ := exists_of_selectToCover zero selects'
  have shapes := Pile.shapes_perm same
  rw [coveringTotal?_congr shapes, found] at found'
  cases found'
  rw [selects, selects']
  exact congrArg Except.ok (map_amount_sortByAmount (map_amount_takeFitting
    (Pile.of_ofProofs other) (Pile.of_ofProofs available) shapes goal))

/-- **Coin selection is safe for any amounts**, as long as the proofs are worth no more than 64 bits
can say. -/
theorem selectToCover_safe (available : List (Proof S))
    (fits : Proof.exactTotal available < 2 ^ 64) (target : Amount) : Safe available target := by
  have piled := Pile.of_ofProofs available
  have worth := Pile.exactTotal_ofProofs available
  have selects (within : target.toNat ≤ Proof.exactTotal available) :
      ∃ selected, selectToCover available target = .ok selected :=
    exists_selectToCover (Proof.total_of_lt fits) within
  constructor
  case refused =>
    constructor
    · intro fails
      refine Nat.lt_of_not_le fun within => ?_
      obtain ⟨selected, succeeds⟩ := selects within
      cases fails.symm.trans succeeds
    · exact selectToCover_refused (Proof.total_of_lt fits)
  case selected => exact selects
  case reached =>
    intro positive within
    obtain ⟨selected, succeeds⟩ := selects within
    have nonzero : target ≠ .zero := fun zero => Nat.ne_of_gt positive (congrArg Amount.toNat zero)
    obtain ⟨goal, found, used, -⟩ := exists_of_selectToCover nonzero succeeds
    exact ⟨goal, found, used⟩
  case coveringFits => exact coveringTotalInWords?_eq piled rfl (by omega)
  case takingFits => exact fun goal => takeFittingInWords?_eq piled goal (by omega)
  case covers => exact fun selected succeeds => (selectToCover_covers succeeds).1
  case needed =>
    intro positive selected succeeds largest rest split most
    exact exactTotal_lt_of_selectToCover positive succeeds split most
  case anyOrder => exact fun other same => selectToCover_perm same fits target

end Chaumian.Wallet

namespace Chaumian.Sample

open Chaumian.Wallet

/-- Proofs of amounts that are no powers of two, and one of nothing. -/
def unevenCoins : List (Proof suite) := [proof 4 0, proof 5 1, proof 0 2, proof 4 3]

/-- Selecting from these is safe, though the value to select for 8 is 9, not the 8 that there is. -/
theorem unevenCoins_safe :
    Proof.exactTotal unevenCoins < 2 ^ 64 ∧ Safe unevenCoins ⟨8, by decide⟩ ∧
      coveringTotal? (Pile.ofProofs unevenCoins) 8 0 none = some 9 :=
  have fits : Proof.exactTotal unevenCoins < 2 ^ 64 := by decide +kernel
  ⟨fits, selectToCover_safe unevenCoins fits _, by decide +kernel⟩

end Chaumian.Sample
