import Chaumian.Proofs.Proof
import Chaumian.Wallet.Selection

/-!
# Coin selection covers its target

The proofs that are selected are some of those available, in the order of their amounts, and their
value is at least the target. Some are selected whenever the available ones are worth that much: the
second pass takes the same proofs as the first one up to the pile that offered the value to select,
and nothing is left uncovered there.
-/

namespace Chaumian

theorem Proof.sortByAmount_perm {S : Suite} (proofs : List (Proof S)) :
    (Proof.sortByAmount proofs).Perm proofs :=
  List.mergeSort_perm _ _

namespace Wallet

variable {S : Suite}

namespace Pile

/-- A pile of some of the given proofs, all of the amount of the pile, which is not nothing. -/
structure Of (available : List (Proof S)) (pile : Pile S) : Prop where
  positive : 0 < pile.amount
  amount : ∀ p ∈ pile.proofs, p.amount.toNat = pile.amount
  available : ∀ p ∈ pile.proofs, p ∈ available

variable {available : List (Proof S)} {pile : Pile S} {piles : List (Pile S)}

theorem of_add {p : Proof S} (mem : p ∈ available) (positive : 0 < p.amount.toNat)
    (h : ∀ pile ∈ piles, pile.Of available) : ∀ pile ∈ add p piles, pile.Of available := by
  have single : (⟨p.amount.toNat, [p]⟩ : Pile S).Of available :=
    ⟨positive, by simp, by simpa using mem⟩
  induction piles with
  | nil => simpa [add] using single
  | cons pile rest ih =>
    have first := h pile List.mem_cons_self
    have others := fun other mem => h other (List.mem_cons_of_mem _ mem)
    unfold add
    split
    · rename_i same
      refine List.forall_mem_cons.2 ⟨⟨first.positive, ?_, ?_⟩, others⟩
      · intro q mem
        rcases List.mem_append.1 mem with mem | mem
        · exact first.amount q mem
        · rw [List.mem_singleton.1 mem]
          exact same.symm
      · intro q mem
        rcases List.mem_append.1 mem with mem | mem
        · exact first.available q mem
        · rw [List.mem_singleton.1 mem]
          assumption
    · split
      · exact List.forall_mem_cons.2 ⟨single, h⟩
      · exact List.forall_mem_cons.2 ⟨first, ih others⟩

theorem of_ofProofs (available : List (Proof S)) :
    ∀ pile ∈ ofProofs available, pile.Of available := by
  suffices general : ∀ (proofs : List (Proof S)) (piles : List (Pile S)),
      (∀ p ∈ proofs, p ∈ available ∧ 0 < p.amount.toNat) → (∀ pile ∈ piles, pile.Of available) →
      ∀ pile ∈ proofs.foldl (fun piles p => add p piles) piles, pile.Of available by
    refine general _ [] (fun p mem => ?_) (by simp)
    rw [List.mem_filter] at mem
    exact ⟨mem.1, Nat.pos_of_ne_zero (by simpa using mem.2)⟩
  intro proofs
  induction proofs with
  | nil => exact fun piles _ h => h
  | cons p rest ih =>
    intro piles given h
    have ⟨mem, positive⟩ := given p List.mem_cons_self
    exact ih _ (fun q mem => given q (List.mem_cons_of_mem _ mem)) (of_add mem positive h)

theorem fitting_le (pile : Pile S) (n : Nat) : pile.fitting n ≤ pile.proofs.length :=
  Nat.min_le_left _ _

theorem fitting_mul_le (pile : Pile S) (n : Nat) : pile.fitting n * pile.amount ≤ n :=
  Nat.le_trans (Nat.mul_le_mul_right _ (Nat.min_le_right _ _)) (Nat.div_mul_le_self ..)

/-- If proofs of a pile are left full, one more of them would be too much. -/
theorem Of.lt_fitting_succ_mul (h : pile.Of available) {n : Nat}
    (left : pile.fitting n < pile.proofs.length) : n < (pile.fitting n + 1) * pile.amount := by
  have most : pile.fitting n = n / pile.amount := by
    rw [fitting] at left ⊢
    omega
  rw [most, Nat.mul_comm]
  exact Nat.lt_mul_div_succ n h.positive

theorem Of.exactTotal_of_subset (h : pile.Of available) {proofs : List (Proof S)}
    (sub : ∀ p ∈ proofs, p ∈ pile.proofs) :
    Proof.exactTotal proofs = proofs.length * pile.amount := by
  induction proofs with
  | nil => simp [Proof.exactTotal]
  | cons p others ih =>
    obtain ⟨mem, sub⟩ := List.forall_mem_cons.1 sub
    have all : Proof.exactTotal (p :: others) = p.amount.toNat + Proof.exactTotal others := rfl
    rw [all, h.amount p mem, ih sub, List.length_cons, Nat.succ_mul, Nat.add_comm]

theorem Of.exactTotal_take (h : pile.Of available) (n : Nat) :
    Proof.exactTotal (pile.proofs.take n) = min n pile.proofs.length * pile.amount := by
  rw [h.exactTotal_of_subset fun p => List.mem_of_mem_take, List.length_take]

theorem Of.exactTotal_proofs (h : pile.Of available) :
    Proof.exactTotal pile.proofs = pile.proofs.length * pile.amount :=
  h.exactTotal_of_subset fun _ mem => mem

end Pile

/-- What is taken and what stays uncovered add up to what was to be covered. -/
theorem takeFitting_total {available : List (Proof S)} {piles : List (Pile S)}
    (h : ∀ pile ∈ piles, pile.Of available) (n : Nat) :
    Proof.exactTotal (takeFitting piles n).1 + (takeFitting piles n).2 = n ∧
      ∀ p ∈ (takeFitting piles n).1, p ∈ available := by
  induction piles generalizing n with
  | nil => exact ⟨Nat.zero_add n, by simp [takeFitting]⟩
  | cons pile rest ih =>
    have first := h pile List.mem_cons_self
    have ⟨total, mem⟩ := ih (fun other mem => h other (List.mem_cons_of_mem _ mem))
      (n - pile.fitting n * pile.amount)
    have taken : Proof.exactTotal (pile.proofs.take (pile.fitting n)) =
        pile.fitting n * pile.amount := by
      rw [first.exactTotal_take, Nat.min_eq_left (pile.fitting_le n)]
    have fits := pile.fitting_mul_le n
    simp only [takeFitting]
    constructor
    · rw [Proof.exactTotal_append, taken]
      omega
    · intro p here
      rcases List.mem_append.1 here with here | here
      · exact first.available p (List.mem_of_mem_take here)
      · exact mem p here

/-! ## The value to select -/

section Smaller

variable {best : Option Nat} {n low : Nat}

theorem le_smaller (covers : ∀ b ∈ best, low ≤ b) (le : low ≤ n) :
    ∀ b ∈ smaller best n, low ≤ b := by
  rintro b mem
  cases mem
  cases best with
  | none => exact le
  | some m => exact Nat.le_min.2 ⟨le, covers m rfl⟩

theorem smaller_le_self : ∀ b ∈ smaller best n, b ≤ n := by
  rintro b mem
  cases mem
  cases best with
  | none => exact Nat.le_refl n
  | some m => exact Nat.min_le_left n m

theorem smaller_le {b m : Nat} (mem : b ∈ smaller best n) (old : m ∈ best) : b ≤ m := by
  obtain rfl : best = some m := old
  cases mem
  exact Nat.min_le_right n m

theorem mem_of_mem_smaller {b : Nat} (mem : b ∈ smaller best n) (ne : b ≠ n) : best = some b := by
  cases best with
  | none =>
    cases mem
    exact absurd rfl ne
  | some m =>
    have smallest : min n m = b := Option.some.inj mem
    exact congrArg some (by omega)

end Smaller

/-- What is taken from a pile no longer remains, so that the sum stays the same. -/
theorem Pile.remaining_add_taken (pile : Pile S) (remaining taken : Nat) :
    remaining - pile.fitting remaining * pile.amount +
      (taken + pile.fitting remaining * pile.amount) = remaining + taken := by
  have fits := pile.fitting_mul_le remaining
  omega

/-- How the first pass goes on from a pile. Either its proofs make up what remains, or there is more
to be covered by the piles behind it. If not all of its proofs fit, one more of them is an offer. -/
theorem coveringTotal_cons {available : List (Proof S)} {pile : Pile S} {rest : List (Pile S)}
    (h : pile.Of available) {remaining taken goal : Nat} {best : Option Nat}
    (covers : ∀ n ∈ best, remaining + taken ≤ n)
    (found : coveringTotal? (pile :: rest) remaining taken best = some goal) :
    (pile.fitting remaining * pile.amount = remaining ∧ goal = taken + remaining) ∨
      0 < remaining - pile.fitting remaining * pile.amount ∧ ∃ offers,
        coveringTotal? rest (remaining - pile.fitting remaining * pile.amount)
          (taken + pile.fitting remaining * pile.amount) offers = some goal ∧
        (∀ n ∈ offers, remaining - pile.fitting remaining * pile.amount +
          (taken + pile.fitting remaining * pile.amount) ≤ n) ∧
        (pile.fitting remaining < pile.proofs.length ∧
            offers = smaller best (taken + (pile.fitting remaining + 1) * pile.amount) ∨
          pile.fitting remaining = pile.proofs.length ∧ offers = best) := by
  have fits := pile.fitting_mul_le remaining
  simp only [coveringTotal?] at found
  split at found
  · cases found
    exact .inl ⟨by omega, by omega⟩
  · rename_i more
    rw [pile.remaining_add_taken remaining taken]
    refine .inr ⟨Nat.pos_of_ne_zero more, _, found, ?_⟩
    split
    · rename_i left
      have beyond := h.lt_fitting_succ_mul left
      exact ⟨le_smaller covers (by omega), .inl ⟨left, rfl⟩⟩
    · rename_i full
      exact ⟨covers, .inr ⟨Nat.le_antisymm (pile.fitting_le _) (Nat.le_of_not_lt full), rfl⟩⟩

/-- A value to select covers all that was to be covered. -/
theorem le_coveringTotal {available : List (Proof S)} {piles : List (Pile S)}
    (h : ∀ pile ∈ piles, pile.Of available) {remaining taken goal : Nat} {best : Option Nat}
    (covers : ∀ n ∈ best, remaining + taken ≤ n)
    (found : coveringTotal? piles remaining taken best = some goal) : remaining + taken ≤ goal := by
  induction piles generalizing remaining taken best with
  | nil => exact covers goal found
  | cons pile rest ih =>
    obtain ⟨first, others⟩ := List.forall_mem_cons.1 h
    obtain ⟨-, rfl⟩ | ⟨-, offers, behind, covers', -⟩ := coveringTotal_cons first covers found
    · exact Nat.le_of_eq (Nat.add_comm _ _)
    · rw [← pile.remaining_add_taken remaining taken]
      exact ih others covers' behind

/-- A value to select is no more than any that was found before. -/
theorem coveringTotal_le {available : List (Proof S)} {piles : List (Pile S)}
    (h : ∀ pile ∈ piles, pile.Of available) {remaining taken goal n : Nat} {best : Option Nat}
    (covers : ∀ n ∈ best, remaining + taken ≤ n)
    (found : coveringTotal? piles remaining taken best = some goal) (mem : n ∈ best) :
    goal ≤ n := by
  induction piles generalizing remaining taken best n with
  | nil => exact Nat.le_of_eq (Option.some.inj (found.symm.trans mem))
  | cons pile rest ih =>
    obtain ⟨first, others⟩ := List.forall_mem_cons.1 h
    obtain ⟨-, rfl⟩ | ⟨-, offers, behind, covers', ⟨-, rfl⟩ | ⟨-, rfl⟩⟩ :=
      coveringTotal_cons first covers found
    · rw [Nat.add_comm]
      exact covers n mem
    · exact Nat.le_trans (ih others covers' behind rfl) (smaller_le rfl mem)
    · exact ih others covers' behind mem

/-! ## The second pass finds what the first one has found -/

/-- Nothing is taken for nothing. -/
theorem takeFitting_zero (piles : List (Pile S)) : takeFitting piles 0 = ([], 0) := by
  induction piles with
  | nil => rfl
  | cons pile rest ih =>
    have none : pile.fitting 0 = 0 := by simp [Pile.fitting]
    simp only [takeFitting, none, Nat.zero_mul, Nat.sub_zero, ih, List.take_zero, List.nil_append]

/-- Taking what fits uses up a value, and one of the proofs taken cannot be spared if there is to be
enough for a lower one. -/
structure Realizes (piles : List (Pile S)) (value low : Nat) : Prop where
  used : (takeFitting piles value).2 = 0
  needed : ∃ p ∈ (takeFitting piles value).1, value < low + p.amount.toNat

/-- Proofs of a pile that are worth the whole of a value leave nothing to be covered. -/
theorem realizes_of_fitting {available : List (Proof S)} {pile : Pile S} (h : pile.Of available)
    {rest : List (Pile S)} {value low : Nat} (positive : 0 < value)
    (exact : pile.fitting value * pile.amount = value) (few : value < low + pile.amount) :
    Realizes (pile :: rest) value low := by
  have none : value - pile.fitting value * pile.amount = 0 := by omega
  constructor
  case used => simp only [takeFitting, none, takeFitting_zero]
  case needed =>
    have some : pile.fitting value ≠ 0 := by
      intro zero
      rw [zero, Nat.zero_mul] at exact
      omega
    have most := pile.fitting_le value
    obtain ⟨p, mem⟩ : ∃ p, p ∈ pile.proofs.take (pile.fitting value) := by
      refine List.exists_mem_of_ne_nil _ fun empty => ?_
      rw [List.take_eq_nil_iff, ← List.length_eq_zero_iff] at empty
      omega
    refine ⟨p, List.mem_append_left _ mem, ?_⟩
    rwa [h.amount p (List.mem_of_mem_take mem)]

/-- The number of proofs of a pile that fit is the same for a larger value if it is all of them, or
if one more of them is worth more than that value. -/
theorem Pile.Of.fitting_eq {available : List (Proof S)} {pile : Pile S} (h : pile.Of available)
    {remaining value : Nat} (le : remaining ≤ value)
    (few : pile.fitting remaining < pile.proofs.length →
      value < (pile.fitting remaining + 1) * pile.amount) :
    pile.fitting value = pile.fitting remaining := by
  have most := pile.fitting_le remaining
  have fits := pile.fitting_mul_le remaining
  have enough : pile.fitting remaining ≤ value / pile.amount := by
    rw [Nat.le_div_iff_mul_le h.positive]
    omega
  by_cases full : pile.fitting remaining < pile.proofs.length
  · have fewer : value / pile.amount < pile.fitting remaining + 1 := by
      rw [Nat.div_lt_iff_lt_mul h.positive]
      exact few full
    rw [Pile.fitting]
    omega
  · rw [Pile.fitting]
    omega

/-- A value for which as many proofs of a pile fit as for a smaller one is used up by the piles
behind it. -/
theorem Realizes.of_rest {available : List (Proof S)} {pile : Pile S} {rest : List (Pile S)}
    (h : pile.Of available) {remaining value : Nat} (le : remaining ≤ value)
    (few : pile.fitting remaining < pile.proofs.length →
      value < (pile.fitting remaining + 1) * pile.amount)
    (later : Realizes rest (value - pile.fitting remaining * pile.amount)
      (remaining - pile.fitting remaining * pile.amount)) :
    Realizes (pile :: rest) value remaining := by
  have fits := pile.fitting_mul_le remaining
  have fitting := h.fitting_eq le few
  obtain ⟨used, p, mem, needed⟩ := later
  constructor
  case used =>
    simp only [takeFitting, fitting]
    exact used
  case needed =>
    simp only [takeFitting, fitting]
    exact ⟨p, List.mem_append_right _ mem, by omega⟩

/-- Taking what fits uses up a value that was found by taking what fits a smaller one: it is the
same proofs up to the pile that offered one more, and there nothing is left. Without the one more,
it would not be enough. -/
theorem takeFitting_goal {available : List (Proof S)} {piles : List (Pile S)}
    (h : ∀ pile ∈ piles, pile.Of available) {remaining taken goal : Nat} {best : Option Nat}
    (positive : 0 < remaining) (covers : ∀ n ∈ best, remaining + taken ≤ n)
    (found : coveringTotal? piles remaining taken best = some goal) :
    best = some goal ∨ Realizes piles (goal - taken) remaining := by
  have all : remaining + taken ≤ goal := le_coveringTotal h covers found
  induction piles generalizing remaining taken best with
  | nil => exact .inl found
  | cons pile rest ih =>
    obtain ⟨first, others⟩ := List.forall_mem_cons.1 h
    have fits := pile.fitting_mul_le remaining
    have kept := pile.remaining_add_taken remaining taken
    obtain ⟨exact, rfl⟩ | ⟨more, offers, behind, covers', ⟨left, rfl⟩ | ⟨full, rfl⟩⟩ :=
      coveringTotal_cons first covers found
    · have some := first.positive
      rw [Nat.add_sub_cancel_left]
      exact .inr (realizes_of_fitting first positive exact (by omega))
    · have most : goal ≤ taken + (pile.fitting remaining + 1) * pile.amount :=
        Nat.le_trans (coveringTotal_le others covers' behind rfl) (smaller_le_self _ rfl)
      by_cases here : goal = taken + (pile.fitting remaining + 1) * pile.amount
      · -- One more proof of this pile makes up the value.
        have value : goal - taken = (pile.fitting remaining + 1) * pile.amount := by omega
        have fitting : pile.fitting (goal - taken) = pile.fitting remaining + 1 := by
          rw [value, Pile.fitting, Nat.mul_div_cancel _ first.positive]
          exact Nat.min_eq_right left
        have succ := Nat.add_one_mul (pile.fitting remaining) pile.amount
        exact .inr (realizes_of_fitting first (by omega) (by rw [fitting, value]) (by omega))
      · obtain earlier | later := ih others more covers' behind (by omega)
        · exact .inl (mem_of_mem_smaller earlier here)
        · rw [← Nat.sub_sub] at later
          exact .inr (.of_rest first (by omega) (fun _ => by omega) later)
    · obtain earlier | later := ih others more covers' behind (by omega)
      · exact .inl earlier
      · rw [← Nat.sub_sub] at later
        exact .inr (.of_rest first (by omega) (fun left => absurd full (Nat.ne_of_lt left)) later)

/-- A value to select is found if there is enough to make one up, or one has been found before. -/
theorem exists_coveringTotal {available : List (Proof S)} {piles : List (Pile S)}
    (h : ∀ pile ∈ piles, pile.Of available) {remaining taken : Nat} {best : Option Nat}
    (enough : best.isSome ∨
      0 < remaining ∧ remaining ≤ Proof.exactTotal (piles.flatMap (·.proofs))) :
    ∃ goal, coveringTotal? piles remaining taken best = some goal := by
  induction piles generalizing remaining taken best with
  | nil =>
    obtain some | ⟨positive, within⟩ := enough
    · exact Option.isSome_iff_exists.1 some
    · exact absurd within (Nat.not_le.2 positive)
  | cons pile rest ih =>
    have first := h pile List.mem_cons_self
    have others := fun other mem => h other (List.mem_cons_of_mem _ mem)
    simp only [coveringTotal?]
    split
    · exact ⟨_, rfl⟩
    · rename_i more
      refine ih others ?_
      split
      · exact .inl rfl
      · -- All proofs of the pile are taken.
        rename_i full
        have all : pile.fitting remaining = pile.proofs.length :=
          Nat.le_antisymm (pile.fitting_le remaining) (Nat.le_of_not_lt full)
        refine enough.imp id fun ⟨_, within⟩ => ⟨Nat.pos_of_ne_zero more, ?_⟩
        rw [List.flatMap_cons, Proof.exactTotal_append, first.exactTotal_proofs] at within
        rw [all]
        omega

/-! ## Proofs that are selected -/

theorem Pile.add_perm (p : Proof S) (piles : List (Pile S)) :
    ((Pile.add p piles).flatMap (·.proofs)).Perm (p :: piles.flatMap (·.proofs)) := by
  induction piles with
  | nil => exact List.Perm.refl _
  | cons pile rest ih =>
    unfold Pile.add
    split
    · rw [List.flatMap_cons, List.flatMap_cons, List.append_assoc]
      exact List.perm_middle
    · split
      · exact List.Perm.refl _
      · rw [List.flatMap_cons, List.flatMap_cons]
        exact (ih.append_left _).trans List.perm_middle

theorem Pile.ofProofs_perm (available : List (Proof S)) :
    ((Pile.ofProofs available).flatMap (·.proofs)).Perm
      (available.filter (·.amount.toNat ≠ 0)) := by
  have general (proofs : List (Proof S)) (piles : List (Pile S)) :
      ((proofs.foldl (fun piles p => Pile.add p piles) piles).flatMap (·.proofs)).Perm
        (piles.flatMap (·.proofs) ++ proofs) := by
    induction proofs generalizing piles with
    | nil => simp
    | cons p rest ih =>
      rw [List.foldl_cons]
      refine (ih _).trans (((Pile.add_perm p piles).append_right rest).trans ?_)
      exact List.perm_middle.symm
  exact general _ []

/-- The piles are worth as much as the proofs they are made of. -/
theorem Pile.exactTotal_ofProofs (available : List (Proof S)) :
    Proof.exactTotal ((Pile.ofProofs available).flatMap (·.proofs)) =
      Proof.exactTotal available := by
  rw [Proof.exactTotal_perm (Pile.ofProofs_perm available), Proof.exactTotal_filter_ne_zero]

theorem takeFitting_sublist (piles : List (Pile S)) (n : Nat) :
    (takeFitting piles n).1.Sublist (piles.flatMap (·.proofs)) := by
  induction piles generalizing n with
  | nil => exact List.Sublist.refl _
  | cons pile rest ih =>
    rw [List.flatMap_cons]
    exact (List.take_sublist _ _).append (ih _)

/-- How proofs come to be selected for a target that is not nothing. -/
theorem exists_of_selectToCover {available selected : List (Proof S)} {target : Amount}
    (positive : target ≠ .zero) (h : selectToCover available target = .ok selected) :
    ∃ goal, coveringTotal? (Pile.ofProofs available) target.toNat 0 none = some goal ∧
      (takeFitting (Pile.ofProofs available) goal).2 = 0 ∧
      selected = Proof.sortByAmount (takeFitting (Pile.ofProofs available) goal).1 := by
  obtain ⟨total, counted, h⟩ := bind_eq_ok.1 h
  obtain ⟨-, h⟩ := guard_eq_ok.1 h
  rw [if_neg positive] at h
  dsimp only at h
  split at h
  · cases h
  · rename_i goal found
    split at h
    · rename_i chosen taken
      cases h
      exact ⟨goal, found, by rw [taken], by rw [taken]⟩
    · cases h

/-- The proofs selected for a target are available, and cover it. -/
theorem selectToCover_covers {available selected : List (Proof S)} {target : Amount}
    (h : selectToCover available target = .ok selected) :
    target.toNat ≤ Proof.exactTotal selected ∧ ∀ p ∈ selected, p ∈ available := by
  by_cases nothing : target = .zero
  · obtain ⟨total, counted, h⟩ := bind_eq_ok.1 h
    obtain ⟨-, h⟩ := guard_eq_ok.1 h
    rw [if_pos nothing] at h
    cases h
    exact ⟨nothing ▸ Nat.zero_le _, by simp⟩
  · obtain ⟨goal, found, used, rfl⟩ := exists_of_selectToCover nothing h
    have piled := Pile.of_ofProofs available
    have covered := le_coveringTotal piled (by simp) found
    have ⟨value, mem⟩ := takeFitting_total piled goal
    rw [used] at value
    rw [Proof.exactTotal_perm (Proof.sortByAmount_perm _)]
    refine ⟨Nat.le_trans covered (Nat.le_of_eq value.symm), fun p here => mem p ?_⟩
    exact (Proof.sortByAmount_perm _).mem_iff.1 here

/-- No proof is selected more often than it is available. -/
theorem selectToCover_subperm {available selected : List (Proof S)} {target : Amount}
    (positive : target ≠ .zero) (h : selectToCover available target = .ok selected) :
    selected.Subperm available := by
  obtain ⟨goal, -, -, rfl⟩ := exists_of_selectToCover positive h
  have taken := (takeFitting_sublist (Pile.ofProofs available) goal).subperm
  have piled := (Pile.ofProofs_perm available).subperm.trans List.filter_sublist.subperm
  exact (Proof.sortByAmount_perm _).subperm.trans (taken.trans piled)

theorem Proof.pairwise_sortByAmount (proofs : List (Proof S)) :
    (Proof.sortByAmount proofs).Pairwise fun p q => p.amount.toNat ≤ q.amount.toNat := by
  have sorted : (Proof.sortByAmount proofs).Pairwise
      fun p q => decide (p.amount.toNat ≤ q.amount.toNat) = true := by
    refine List.pairwise_mergeSort (fun p q r pq qr => ?_) (fun p q => ?_) proofs
    · rw [decide_eq_true_eq] at pq qr ⊢
      exact Nat.le_trans pq qr
    · rw [Bool.or_eq_true, decide_eq_true_eq, decide_eq_true_eq]
      exact Nat.le_total _ _
  exact sorted.imp fun le => of_decide_eq_true le

/-- The proofs selected are in the order of their amounts. -/
theorem selectToCover_sorted {available selected : List (Proof S)} {target : Amount}
    (positive : target ≠ .zero) (h : selectToCover available target = .ok selected) :
    (selected.map (·.amount)).Pairwise fun a b => a.toNat ≤ b.toNat := by
  obtain ⟨goal, -, -, rfl⟩ := exists_of_selectToCover positive h
  exact List.pairwise_map.2 (Proof.pairwise_sortByAmount _)

/-- Nothing is selected for a target that is worth more than all that are available. -/
theorem selectToCover_refused {available : List (Proof S)} {total target : Amount}
    (counted : Proof.total available = .ok total) (beyond : total.toNat < target.toNat) :
    selectToCover available target = .error .insufficientBalance := by
  unfold selectToCover
  rw [counted]
  exact if_pos (c := total < target) beyond

/-- For no target, no proofs are selected. -/
theorem selectToCover_zero {available : List (Proof S)} {total : Amount}
    (counted : Proof.total available = .ok total) : selectToCover available .zero = .ok [] := by
  unfold selectToCover
  rw [counted]
  exact bind_eq_ok.2 ⟨total, rfl, guard_eq_ok.2 ⟨Nat.not_lt_zero _, if_pos rfl⟩⟩

/-- Proofs are selected for every target that is not worth more than all that are available. -/
theorem exists_selectToCover {available : List (Proof S)} {total target : Amount}
    (counted : Proof.total available = .ok total) (within : target.toNat ≤ total.toNat) :
    ∃ selected, selectToCover available target = .ok selected := by
  by_cases nothing : target = .zero
  · exact ⟨[], nothing ▸ selectToCover_zero counted⟩
  · unfold selectToCover
    rw [counted]
    have positive : 0 < target.toNat :=
      Nat.pos_of_ne_zero fun none => nothing (Amount.ext none)
    have worth : Proof.exactTotal ((Pile.ofProofs available).flatMap (·.proofs)) = total.toNat := by
      rw [Pile.exactTotal_ofProofs, Proof.exactTotal_of_total counted]
    have piled := Pile.of_ofProofs available
    obtain ⟨goal, found⟩ : ∃ goal,
        coveringTotal? (Pile.ofProofs available) target.toNat 0 none = some goal :=
      exists_coveringTotal piled (.inr ⟨positive, worth ▸ within⟩)
    have used := ((takeFitting_goal piled positive (by simp) found).resolve_left nofun).used
    rw [Nat.sub_zero] at used
    rcases taken : takeFitting (Pile.ofProofs available) goal with ⟨chosen, uncovered⟩
    rw [taken] at used
    obtain rfl : uncovered = 0 := used
    refine ⟨Proof.sortByAmount chosen,
      bind_eq_ok.2 ⟨total, rfl, guard_eq_ok.2 ⟨Nat.not_lt.2 within, ?_⟩⟩⟩
    rw [if_neg nothing]
    dsimp only
    rw [found]
    dsimp only
    rw [taken]
    rfl

end Wallet

end Chaumian
