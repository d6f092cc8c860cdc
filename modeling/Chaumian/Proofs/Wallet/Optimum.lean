import Chaumian.Proofs.Scalars
import Chaumian.Proofs.Wallet.Selection

/-!
# The proofs selected are the best there are

Where every amount is a power of two, each amount divides all larger ones. Proofs of smaller amounts
that are worth some proofs of a larger one, then, can be exchanged for these (`exists_exchanged`):
the others have the value that is left, and there are no more proofs than before. So whatever covers
the target can be changed until it has as many proofs of each amount as the selection has, or has
one more of some amount, which is a value that the selection was offered.

`selectToCover_optimal` says what follows: the value of the selection is the smallest one that
covers the target, and no other proofs of that value are fewer.
-/

namespace Chaumian.Wallet

variable {S : Suite} {available : List (Proof S)} {pile : Pile S} {piles rest : List (Pile S)}

/-! ## Piles in order -/

namespace Pile

/-- Piles that have proofs, the largest amount first and no two of one amount. -/
structure Ordered (piles : List (Pile S)) : Prop where
  decreasing : piles.Pairwise fun pile later => later.amount < pile.amount
  nonempty : ∀ pile ∈ piles, pile.proofs ≠ []

theorem amount_of_mem_add {p : Proof S} (mem : pile ∈ add p piles) :
    pile.amount = p.amount.toNat ∨ ∃ old ∈ piles, pile.amount = old.amount := by
  induction piles with
  | nil =>
    rw [add, List.mem_singleton] at mem
    exact .inl (congrArg amount mem)
  | cons first rest ih =>
    unfold add at mem
    split at mem
    · obtain rfl | mem := List.mem_cons.1 mem
      · exact .inr ⟨first, List.mem_cons_self, rfl⟩
      · exact .inr ⟨pile, List.mem_cons_of_mem _ mem, rfl⟩
    · split at mem
      · obtain rfl | mem := List.mem_cons.1 mem
        · exact .inl rfl
        · exact .inr ⟨pile, mem, rfl⟩
      · obtain rfl | mem := List.mem_cons.1 mem
        · exact .inr ⟨pile, List.mem_cons_self, rfl⟩
        · obtain new | ⟨old, there, same⟩ := ih mem
          · exact .inl new
          · exact .inr ⟨old, List.mem_cons_of_mem _ there, same⟩

theorem Ordered.add (h : Ordered piles) (p : Proof S) : Ordered (Pile.add p piles) := by
  induction piles with
  | nil => exact ⟨List.pairwise_singleton _ _, by simp [Pile.add]⟩
  | cons first rest ih =>
    obtain ⟨above, decreasing⟩ := List.pairwise_cons.1 h.decreasing
    obtain ⟨some, nonempty⟩ := List.forall_mem_cons.1 h.nonempty
    unfold Pile.add
    split
    · exact ⟨List.pairwise_cons.2 ⟨above, decreasing⟩,
        List.forall_mem_cons.2 ⟨List.append_ne_nil_of_right_ne_nil _ (by simp), nonempty⟩⟩
    · split
      · rename_i below
        refine ⟨List.pairwise_cons.2 ⟨List.forall_mem_cons.2 ⟨below, fun later mem => ?_⟩,
          h.decreasing⟩, List.forall_mem_cons.2 ⟨by simp, h.nonempty⟩⟩
        exact Nat.lt_trans (above later mem) below
      · rename_i different notBelow
        have inner := ih ⟨decreasing, nonempty⟩
        refine ⟨List.pairwise_cons.2 ⟨fun later mem => ?_, inner.decreasing⟩,
          List.forall_mem_cons.2 ⟨some, inner.nonempty⟩⟩
        obtain new | ⟨old, there, same⟩ := amount_of_mem_add mem
        · omega
        · rw [same]
          exact above old there

theorem ordered_ofProofs (available : List (Proof S)) : Ordered (ofProofs available) := by
  have general (proofs : List (Proof S)) (piles : List (Pile S)) (h : Ordered piles) :
      Ordered (proofs.foldl (fun piles p => add p piles) piles) := by
    induction proofs generalizing piles with
    | nil => exact h
    | cons p rest ih => exact ih _ (h.add p)
  exact general _ [] ⟨.nil, nofun⟩

/-- The amount of a pile is one of those that are available. -/
theorem exists_amount_of_mem_ofProofs (mem : pile ∈ ofProofs available) :
    ∃ p ∈ available, p.amount.toNat = pile.amount ∧ 0 < pile.amount := by
  have of := of_ofProofs available pile mem
  obtain ⟨p, there⟩ := List.exists_mem_of_ne_nil _ ((ordered_ofProofs available).nonempty pile mem)
  exact ⟨p, of.available p there, of.amount p there, of.positive⟩

end Pile

/-! ## Amounts that divide each other -/

/-- Each amount divides the ones before it. -/
def Proof.Chain (proofs : List (Proof S)) : Prop :=
  proofs.Pairwise fun p q => q.amount.toNat ∣ p.amount.toNat

/-- Each pile's amount divides the ones before it. -/
def Pile.Chain (piles : List (Pile S)) : Prop :=
  piles.Pairwise fun pile later => later.amount ∣ pile.amount

theorem Pile.Ordered.chain (h : Ordered piles)
    (powers : ∀ pile ∈ piles, ∃ k, pile.amount = 2 ^ k) : Chain piles := by
  refine h.decreasing.imp_of_mem fun {pile later} mem mem' below => ?_
  obtain ⟨k, large⟩ := powers pile mem
  obtain ⟨l, small⟩ := powers later mem'
  rw [large, small] at below ⊢
  exact pow_dvd_pow 2 (Nat.le_of_lt ((Nat.pow_lt_pow_iff_right (by decide)).1 below))

theorem Pile.Chain.proofs (chain : Chain piles) (h : ∀ pile ∈ piles, pile.Of available) :
    Proof.Chain (piles.flatMap (·.proofs)) := by
  rw [Proof.Chain, List.pairwise_flatMap]
  constructor
  · intro pile mem
    refine List.pairwise_of_forall_mem_list fun p here q there => ?_
    rw [(h pile mem).amount p here, (h pile mem).amount q there]
  · refine chain.imp_of_mem fun {pile later} mem mem' divides p here q there => ?_
    rw [(h pile mem).amount p here, (h later mem').amount q there]
    exact divides

/-- Proofs of a value that all their amounts divide can be left out of proofs that are worth as
much: one after the other, as no amount is more than what is still to be left out. -/
theorem exists_left {proofs : List (Proof S)} (chain : Proof.Chain proofs) {value most : Nat}
    (divides : ∀ p ∈ proofs, p.amount.toNat ∣ value) (small : ∀ p ∈ proofs, p.amount.toNat ≤ most)
    (within : value ≤ Proof.exactTotal proofs) :
    ∃ left, left.Sublist proofs ∧ value + Proof.exactTotal left = Proof.exactTotal proofs ∧
      value + left.length * most ≤ proofs.length * most := by
  induction proofs generalizing value with
  | nil =>
    obtain rfl : value = 0 := Nat.eq_zero_of_le_zero within
    exact ⟨[], .slnil, rfl, Nat.le_of_eq (Nat.zero_add _)⟩
  | cons p others ih =>
    obtain rfl | positive := Nat.eq_zero_or_pos value
    · exact ⟨p :: others, .refl _, Nat.zero_add _, Nat.le_of_eq (Nat.zero_add _)⟩
    obtain ⟨first, later⟩ := List.pairwise_cons.1 chain
    obtain ⟨divided, divides⟩ := List.forall_mem_cons.1 divides
    obtain ⟨less, small⟩ := List.forall_mem_cons.1 small
    have fits : p.amount.toNat ≤ value := Nat.le_of_dvd positive divided
    have all : Proof.exactTotal (p :: others) = p.amount.toNat + Proof.exactTotal others := rfl
    obtain ⟨left, sub, worth, fewer⟩ := ih later
      (fun q mem => Nat.dvd_sub (divides q mem) (first q mem)) small (by omega)
    refine ⟨left, sub.cons p, by omega, ?_⟩
    rw [List.length_cons, Nat.succ_mul]
    omega

/-- Of proofs that are worth `count` proofs of a pile and have no more of them, the others of that
value can be exchanged for such proofs. What is left has the rest of the value, and there are no
more proofs than before. -/
theorem exists_exchanged (first : pile.Of available) (h : ∀ pile ∈ rest, pile.Of available)
    (chain : Pile.Chain (pile :: rest)) {front back : List (Proof S)}
    (own : ∀ p ∈ front, p ∈ pile.proofs) (others : back.Sublist (rest.flatMap (·.proofs)))
    {count : Nat} (few : front.length ≤ count)
    (enough : count * pile.amount ≤ Proof.exactTotal (front ++ back)) :
    ∃ left, left.Sublist (rest.flatMap (·.proofs)) ∧
      count * pile.amount + Proof.exactTotal left = Proof.exactTotal (front ++ back) ∧
      count + left.length ≤ (front ++ back).length := by
  obtain ⟨divides, later⟩ := List.pairwise_cons.1 chain
  have later : Pile.Chain rest := later
  have divided (p : Proof S) (mem : p ∈ back) : p.amount.toNat ∣ pile.amount := by
    obtain ⟨other, there, here⟩ := List.mem_flatMap.1 (others.subset mem)
    rw [(h other there).amount p here]
    exact divides other there
  have worth := first.exactTotal_of_subset own
  obtain ⟨more, rfl⟩ := Nat.exists_eq_add_of_le few
  rw [Proof.exactTotal_append, worth, Nat.add_mul] at enough ⊢
  obtain ⟨left, sub, total, fewer⟩ := exists_left ((later.proofs h).sublist others)
    (fun p mem => Dvd.dvd.mul_left (divided p mem) more)
    (fun p mem => Nat.le_of_dvd first.positive (divided p mem)) (by omega)
  rw [← Nat.add_mul] at fewer
  have fewer := Nat.le_of_mul_le_mul_right fewer first.positive
  refine ⟨left, sub.trans others, by omega, ?_⟩
  rw [List.length_append]
  omega

/-! ## The smallest value -/

/-- Whatever covers what remains is worth at least the value to select. -/
theorem coveringTotal_le_of_covers (h : ∀ pile ∈ piles, pile.Of available)
    (chain : Pile.Chain piles) {remaining taken goal : Nat} {best : Option Nat}
    (positive : 0 < remaining) (covers : ∀ n ∈ best, remaining + taken ≤ n)
    (found : coveringTotal? piles remaining taken best = some goal) {other : List (Proof S)}
    (sub : other.Sublist (piles.flatMap (·.proofs))) (enough : remaining ≤ Proof.exactTotal other) :
    goal ≤ taken + Proof.exactTotal other := by
  induction piles generalizing remaining taken best other with
  | nil =>
    obtain rfl := List.sublist_nil.1 sub
    exact absurd enough (Nat.not_le.2 positive)
  | cons pile rest ih =>
    obtain ⟨first, others⟩ := List.forall_mem_cons.1 h
    have fits := pile.fitting_mul_le remaining
    rw [List.flatMap_cons] at sub
    obtain ⟨front, back, rfl, own, sub⟩ := List.sublist_append_iff.1 sub
    obtain ⟨-, rfl⟩ | ⟨more, offers, behind, covers', offered⟩ :=
      coveringTotal_cons first covers found
    · omega
    · obtain many | few := Nat.lt_or_ge (pile.fitting remaining) front.length
      · -- With more proofs of this pile than fit, they are worth the value that it offers.
        have left : pile.fitting remaining < pile.proofs.length :=
          Nat.lt_of_lt_of_le many own.length_le
        obtain ⟨-, rfl⟩ | ⟨full, -⟩ := offered
        · have least : goal ≤ taken + (pile.fitting remaining + 1) * pile.amount :=
            Nat.le_trans (coveringTotal_le others covers' behind rfl) (smaller_le_self _ rfl)
          have worth := first.exactTotal_of_subset own.subset
          have atLeast : (pile.fitting remaining + 1) * pile.amount ≤ front.length * pile.amount :=
            Nat.mul_le_mul_right _ many
          rw [Proof.exactTotal_append]
          omega
        · exact absurd full (Nat.ne_of_lt left)
      · -- With no more of them, it is about the proofs that are left.
        obtain ⟨left, sub, worth, -⟩ := exists_exchanged first others chain own.subset sub few
          (Nat.le_trans fits enough)
        have least := ih others (List.pairwise_cons.1 chain).2 more covers' behind sub (by omega)
        omega

/-- Taking what fits takes no more proofs than any others of the same value are. -/
theorem length_takeFitting_le (h : ∀ pile ∈ piles, pile.Of available) (chain : Pile.Chain piles)
    {other : List (Proof S)} (sub : other.Sublist (piles.flatMap (·.proofs))) :
    (takeFitting piles (Proof.exactTotal other)).1.length ≤ other.length := by
  induction piles generalizing other with
  | nil => exact Nat.zero_le _
  | cons pile rest ih =>
    have first := h pile List.mem_cons_self
    have others := fun other mem => h other (List.mem_cons_of_mem _ mem)
    rw [List.flatMap_cons] at sub
    obtain ⟨front, back, rfl, own, sub⟩ := List.sublist_append_iff.1 sub
    have fits := pile.fitting_mul_le (Proof.exactTotal (front ++ back))
    have few : front.length ≤ pile.fitting (Proof.exactTotal (front ++ back)) := by
      refine Nat.le_min.2 ⟨own.length_le, (Nat.le_div_iff_mul_le first.positive).2 ?_⟩
      rw [Proof.exactTotal_append, ← first.exactTotal_of_subset own.subset]
      exact Nat.le_add_right _ _
    obtain ⟨left, sub, worth, fewer⟩ := exists_exchanged first others chain own.subset sub few fits
    have rest_eq : Proof.exactTotal (front ++ back) -
        pile.fitting (Proof.exactTotal (front ++ back)) * pile.amount = Proof.exactTotal left := by
      omega
    have least := ih others (List.pairwise_cons.1 chain).2 sub
    simp only [takeFitting, rest_eq, List.length_append, List.length_take,
      Nat.min_eq_left (pile.fitting_le _)]
    rw [List.length_append] at fewer
    omega

/-! ## The selection -/

/-- The best proofs to select for a target: some of those available, in the order of their amounts,
of the smallest value that covers the target, and no more than any others of that value. -/
structure Optimal (available : List (Proof S)) (target : Amount) (selected : List (Proof S)) :
    Prop where
  some : selected.Subperm available
  sorted : selected.Pairwise fun p q => p.amount.toNat ≤ q.amount.toNat
  covers : target.toNat ≤ Proof.exactTotal selected
  smallest : ∀ other : List (Proof S), other.Subperm available →
    target.toNat ≤ Proof.exactTotal other → Proof.exactTotal selected ≤ Proof.exactTotal other
  fewest : ∀ other : List (Proof S), other.Subperm available →
    Proof.exactTotal other = Proof.exactTotal selected → selected.length ≤ other.length

/-- The best proofs are worth exactly the target whenever any are. -/
theorem Optimal.exact {target : Amount} {selected other : List (Proof S)}
    (h : Optimal available target selected) (part : other.Subperm available)
    (worth : Proof.exactTotal other = target.toNat) :
    Proof.exactTotal selected = target.toNat :=
  Nat.le_antisymm (worth ▸ h.smallest other part (Nat.le_of_eq worth.symm)) h.covers

/-- Some of the proofs available are, but for proofs of nothing, a part of the piles. -/
theorem Pile.exists_sublist_of_subperm {other : List (Proof S)} (h : other.Subperm available) :
    ∃ part, part.Sublist ((ofProofs available).flatMap (·.proofs)) ∧
      Proof.exactTotal part = Proof.exactTotal other ∧ part.length ≤ other.length := by
  have valued : (other.filter (·.amount.toNat ≠ 0)).Subperm
      ((ofProofs available).flatMap (·.proofs)) :=
    (h.filter _).trans (ofProofs_perm available).symm.subperm
  obtain ⟨part, same, sub⟩ := valued
  refine ⟨part, sub, ?_, ?_⟩
  · rw [Proof.exactTotal_perm same, Proof.exactTotal_filter_ne_zero]
  · rw [same.length_eq]
    exact List.length_filter_le _ _

/-- **Coin selection is optimal.** Where every amount is nothing or a power of two, and the proofs
are worth an amount together, the best proofs are selected for every target up to that. -/
theorem selectToCover_optimal {available : List (Proof S)} {target : Amount}
    (powers : ∀ p ∈ available, p.amount.toNat = 0 ∨ ∃ k, p.amount.toNat = 2 ^ k)
    (fits : Proof.exactTotal available < 2 ^ 64) (positive : 0 < target.toNat)
    (within : target.toNat ≤ Proof.exactTotal available) :
    ∃ selected, selectToCover available target = .ok selected ∧
      Optimal available target selected ∧
      ((∃ other : List (Proof S), other.Subperm available ∧
          Proof.exactTotal other = target.toNat) →
        Proof.exactTotal selected = target.toNat) := by
  have nonzero : target ≠ .zero := fun zero => Nat.ne_of_gt positive (congrArg Amount.toNat zero)
  obtain ⟨selected, selects⟩ := exists_selectToCover (Proof.total_of_lt fits) within
  obtain ⟨goal, found, used, made⟩ := exists_of_selectToCover nonzero selects
  have piled := Pile.of_ofProofs available
  have chain : Pile.Chain (Pile.ofProofs available) := by
    refine (Pile.ordered_ofProofs available).chain fun pile mem => ?_
    obtain ⟨p, there, same, worth⟩ := Pile.exists_amount_of_mem_ofProofs mem
    rw [← same] at worth ⊢
    exact (powers p there).resolve_left (Nat.ne_of_gt worth)
  have ordered := Proof.sortByAmount_perm (takeFitting (Pile.ofProofs available) goal).1
  rw [← made] at ordered
  have worth : Proof.exactTotal selected = goal := by
    rw [Proof.exactTotal_perm ordered]
    have sum := (takeFitting_total piled goal).1
    rwa [used] at sum
  have optimal : Optimal available target selected := by
    constructor
    case some => exact selectToCover_subperm nonzero selects
    case sorted => exact made ▸ Proof.pairwise_sortByAmount _
    case covers => exact (selectToCover_covers selects).1
    case smallest =>
      intro other part enough
      obtain ⟨piled', sub, same, -⟩ := Pile.exists_sublist_of_subperm part
      have least := coveringTotal_le_of_covers piled chain positive (by simp) found sub
        (same ▸ enough)
      omega
    case fewest =>
      intro other part equal
      obtain ⟨piled', sub, same, fewer⟩ := Pile.exists_sublist_of_subperm part
      have least := length_takeFitting_le piled chain sub
      rw [same, equal, worth, ← ordered.length_eq] at least
      exact Nat.le_trans least fewer
  exact ⟨selected, selects, optimal, fun ⟨_, part, same⟩ => optimal.exact part same⟩

end Chaumian.Wallet

namespace Chaumian.Sample

open Chaumian.Wallet

/-- One proof of 8, three of 2, one of 1 and one of nothing. -/
def coins : List (Proof suite) :=
  [proof 2 0, proof 2 1, proof 8 2, proof 0 3, proof 2 4, proof 1 5]

/-- For 9 there are proofs of exactly that value among these, so they are selected. -/
theorem coins_optimal :
    (∀ p ∈ coins, p.amount.toNat = 0 ∨ ∃ k, p.amount.toNat = 2 ^ k) ∧
      ∃ selected, selectToCover coins ⟨9, by decide⟩ = .ok selected ∧
        Optimal coins ⟨9, by decide⟩ selected ∧ Proof.exactTotal selected = 9 := by
  have powers : ∀ p ∈ coins, p.amount.toNat = 0 ∨ ∃ k, p.amount.toNat = 2 ^ k := by
    have known : ∀ p ∈ coins, p.amount.toNat = 0 ∨ ∃ k ∈ [0, 1, 3], p.amount.toNat = 2 ^ k := by
      decide +kernel
    exact fun p mem => (known p mem).imp_right fun ⟨k, _, power⟩ => ⟨k, power⟩
  obtain ⟨selected, selects, optimal, exact⟩ := selectToCover_optimal powers (by decide +kernel)
    (show 0 < (⟨9, by decide⟩ : Amount).toNat by decide) (by decide +kernel)
  refine ⟨powers, selected, selects, optimal, exact ⟨[proof 8 2, proof 1 5], ?_, by decide +kernel⟩⟩
  exact List.Sublist.subperm (by decide +kernel)

end Chaumian.Sample
