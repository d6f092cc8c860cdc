import Chaumian.Proofs.Amount
import Mathlib

/-!
# The denominations of an amount

The denominations up to an order are the powers of two below `2 ^ order`. An amount below that bound
is the sum of exactly one ascending list of them, and that list is what it is decomposed into; other
amounts are refused. Amounts in any order are canonical exactly if they are denominations and no two
of them are the same.

Uniqueness is that of binary digits: the orders of distinct powers of two are the places of the ones
in their sum (`Nat.bitIndices_sum_map_two_pow`).
-/

namespace Chaumian

namespace Denominations

variable {d : Denominations} {a : Amount} {parts others amounts : List Amount}

theorem supports_iff : d.supports a ↔ ∃ order < d.order, a.toNat = 2 ^ order := by
  have split : d.supports a ↔
      (a.toNat ≠ 0 ∧ 2 ^ a.toNat.log2 = a.toNat) ∧ a.toNat.log2 < d.order := by
    simp [supports, Amount.isPowerOfTwo]
  rw [split]
  constructor
  · rintro ⟨⟨-, power⟩, below⟩
    exact ⟨a.toNat.log2, below, power.symm⟩
  · rintro ⟨order, below, power⟩
    rw [power, Nat.log2_two_pow]
    exact ⟨⟨(Nat.two_pow_pos order).ne', rfl⟩, below⟩

/-- Parts that make up an amount: each is a denomination and larger than the one before. -/
structure Ascending (d : Denominations) (a : Amount) (parts : List Amount) : Prop where
  ascending : parts.Pairwise (· < ·)
  supported : ∀ part ∈ parts, d.supports part
  total : Amount.exactSum parts = a.toNat

theorem Ascending.nodup (h : d.Ascending a parts) : parts.Nodup :=
  h.ascending.imp fun {p _} less => fun same => Nat.lt_irrefl p.toNat (same ▸ less)

/-- Denominations are given by their orders. -/
theorem exists_orders (supported : ∀ part ∈ parts, d.supports part) :
    ∃ orders : List Nat, parts.map (·.toNat) = orders.map (2 ^ ·) ∧
      ∀ order ∈ orders, order < d.order := by
  induction parts with
  | nil => exact ⟨[], rfl, fun _ mem => nomatch mem⟩
  | cons part rest ih =>
    obtain ⟨order, below, power⟩ := supports_iff.1 (supported part List.mem_cons_self)
    obtain ⟨orders, powers, all⟩ := ih fun p mem => supported p (List.mem_cons_of_mem part mem)
    refine ⟨order :: orders, ?_, ?_⟩
    · rw [List.map_cons, List.map_cons, power, powers]
    · exact List.forall_mem_cons.2 ⟨below, all⟩

/-- Ascending denominations are the powers of two at the ones in the digits of their sum, and these
are at places below the order. -/
theorem map_toNat_of_ascending (ascending : parts.Pairwise (· < ·))
    (supported : ∀ part ∈ parts, d.supports part) :
    parts.map (·.toNat) = (Amount.exactSum parts).bitIndices.map (2 ^ ·) ∧
      ∀ order ∈ (Amount.exactSum parts).bitIndices, order < d.order := by
  obtain ⟨orders, powers, below⟩ := exists_orders supported
  have sorted : orders.SortedLT := by
    have values : (parts.map (·.toNat)).Pairwise (· < ·) := List.pairwise_map.2 ascending
    rw [powers, List.pairwise_map] at values
    exact (values.imp fun less => (Nat.pow_lt_pow_iff_right (by decide)).1 less).sortedLT
  have places : (Amount.exactSum parts).bitIndices = orders := by
    rw [Amount.exactSum, powers]
    exact Nat.bitIndices_sum_map_two_pow sorted
  rw [places]
  exact ⟨powers, below⟩

/-- No two ascending lists of denominations make up the same amount. -/
theorem Ascending.unique (h : d.Ascending a parts) (h' : d.Ascending a others) :
    parts = others := by
  have same : parts.map (·.toNat) = others.map (·.toNat) := by
    rw [(map_toNat_of_ascending h.ascending h.supported).1,
      (map_toNat_of_ascending h'.ascending h'.supported).1, h.total, h'.total]
  exact List.map_injective_iff.2 (fun _ _ => Amount.ext) same

theorem sorted_perm (amounts : List Amount) : (sorted amounts).Perm amounts :=
  List.mergeSort_perm amounts _

/-- Distinct amounts are strictly ascending once they are in order. -/
theorem pairwise_sorted (distinct : amounts.Nodup) : (sorted amounts).Pairwise (· < ·) := by
  have ordered : (sorted amounts).Pairwise fun a b => decide (a.toNat ≤ b.toNat) := by
    refine List.pairwise_mergeSort (fun a b c ab bc => ?_) (fun a b => ?_) amounts
    · exact decide_eq_true ((of_decide_eq_true ab).trans (of_decide_eq_true bc))
    · simpa using Nat.le_total a.toNat b.toNat
  have apart : (sorted amounts).Nodup := (sorted_perm amounts).nodup_iff.2 distinct
  exact ordered.imp₂ (fun a b le ne => Nat.lt_of_le_of_ne (of_decide_eq_true le) fun same =>
    ne (Amount.ext same)) apart

/-- Distinct denominations in order are what makes up any amount they add up to. -/
theorem ascending_sorted (distinct : amounts.Nodup) (supported : ∀ p ∈ amounts, d.supports p)
    (total : Amount.exactSum amounts = a.toNat) : d.Ascending a (sorted amounts) where
  ascending := pairwise_sorted distinct
  supported p mem := supported p ((sorted_perm amounts).subset mem)
  total := (Amount.exactSum_perm (sorted_perm amounts)).trans total

/-- Distinct denominations add up to less than the bound: no digit of their sum is at the order or
beyond it. -/
theorem exactSum_lt (distinct : amounts.Nodup) (supported : ∀ p ∈ amounts, d.supports p) :
    Amount.exactSum amounts < 2 ^ d.order := by
  rw [← Amount.exactSum_perm (sorted_perm amounts)]
  refine Nat.lt_pow_two_of_testBit _ fun place high => ?_
  have below := (map_toNat_of_ascending (pairwise_sorted distinct) fun p mem =>
    supported p ((sorted_perm amounts).subset mem)).2
  by_contra one
  have mem := Nat.mem_bitIndices.2 (Bool.not_eq_false _ ▸ one)
  exact absurd (below place mem) (Nat.not_lt.2 high)

/-- What an amount is decomposed into makes it up. -/
theorem ascending_of_decompose (h : d.decompose a = .ok parts) : d.Ascending a parts := by
  obtain ⟨below, rfl⟩ := decompose_eq_ok.1 h
  have power {order : Nat} {part : Amount}
      (found : (if a.toNat.testBit order then Amount.ofNat? (Nat.pow 2 order) else none) =
        some part) : part.toNat = 2 ^ order := by
    split at found
    · rw [Amount.ofNat?] at found
      split at found
      · cases found
        rfl
      · cases found
    · cases found
  refine ⟨?_, fun part mem => ?_, exactSum_decompose h⟩
  · refine List.pairwise_lt_range.filterMap _ fun i j less p first q second => ?_
    show p.toNat < q.toNat
    rw [power first, power second]
    exact Nat.pow_lt_pow_right (by decide) less
  · obtain ⟨order, within, found⟩ := List.mem_filterMap.1 mem
    exact supports_iff.2 ⟨order, List.mem_range.1 within, power found⟩

/-- The parts that an amount is decomposed into are the ones that make it up. -/
theorem decompose_eq_ok_iff : d.decompose a = .ok parts ↔ d.Ascending a parts := by
  refine ⟨ascending_of_decompose, fun made => ?_⟩
  have below : a.toNat < 2 ^ d.order := by
    rw [← made.total]
    exact exactSum_lt made.nodup made.supported
  have done := decompose_eq_ok.2 ⟨below, rfl⟩
  rw [done, made.unique (ascending_of_decompose done)]

/-- Only amounts beyond the bound cannot be decomposed. -/
theorem decompose_eq_error {e : Amount.Error} :
    d.decompose a = .error e ↔ 2 ^ d.order ≤ a.toNat ∧ e = .tooLarge := by
  rcases Nat.lt_or_ge a.toNat (2 ^ d.order) with below | beyond
  · rw [decompose_eq_ok.2 ⟨below, rfl⟩]
    exact ⟨fun h => (nomatch h), fun h => absurd below (Nat.not_lt.2 h.1)⟩
  · have refused : d.decompose a = .error .tooLarge := by
      unfold decompose
      refine if_pos ?_
      show 2 ^ d.order - 1 < a.toNat
      have := Nat.two_pow_pos d.order
      omega
    rw [refused]
    constructor
    · intro h
      cases h
      exact ⟨beyond, rfl⟩
    · rintro ⟨-, rfl⟩
      rfl

/-- Parts that were asked for are taken if they are denominations and add up to the amount. -/
theorem checkSplit_eq_ok : d.checkSplit a parts = .ok () ↔
    Amount.exactSum parts = a.toNat ∧ ∀ part ∈ parts, d.supports part := by
  unfold checkSplit
  rcases added : Amount.sum parts with e | total
  · refine ⟨fun h => (nomatch h), fun ⟨equal, _⟩ => ?_⟩
    rw [Amount.sum_eq_ofExact, equal, Amount.ofExact_of_lt a.lt] at added
    cases added
  · have equal := Amount.exactSum_of_sum added
    dsimp only
    by_cases same : total = a
    · rw [if_neg (not_not.2 same), equal, same, ← List.all_eq_true]
      split <;> simp [*]
    · rw [if_pos same]
      exact ⟨fun h => (nomatch h), fun h => absurd (Amount.ext (equal.symm.trans h.1)) same⟩

theorem plan_some_eq_ok {split : List Amount} : d.plan a (some split) = .ok parts ↔
    parts = split ∧ Amount.exactSum split = a.toNat ∧ ∀ part ∈ split, d.supports part := by
  rw [← checkSplit_eq_ok, plan]
  rcases d.checkSplit a split with e | ⟨⟩
  · constructor
    · intro h
      cases h
    · rintro ⟨-, h⟩
      cases h
  · constructor
    · intro h
      cases h
      exact ⟨rfl, rfl⟩
    · exact fun h => congrArg Except.ok h.1.symm

/-- Amounts are canonical exactly if they are distinct denominations. -/
theorem isCanonical_iff_nodup :
    d.isCanonical amounts ↔ amounts.Nodup ∧ ∀ p ∈ amounts, d.supports p := by
  rw [isCanonical_iff]
  constructor
  · rintro ⟨total, -, decomposed⟩
    have made := ascending_of_decompose decomposed
    exact ⟨(sorted_perm amounts).nodup_iff.1 made.nodup,
      fun p mem => made.supported p ((sorted_perm amounts).symm.subset mem)⟩
  · rintro ⟨distinct, supported⟩
    have fits : Amount.exactSum amounts < Nat.pow 2 64 :=
      (exactSum_lt distinct supported).trans_le (Nat.pow_le_pow_right (by decide) d.le)
    refine ⟨⟨Amount.exactSum amounts, fits⟩, ?_, ?_⟩
    · rw [Amount.sum_eq_ofExact, Amount.ofExact_of_lt fits]
    · exact decompose_eq_ok_iff.2 (ascending_sorted distinct supported rfl)

/-- They are, in some order, what their exact sum is decomposed into. -/
theorem isCanonical_iff_perm : d.isCanonical amounts ↔ ∃ total parts,
    total.toNat = Amount.exactSum amounts ∧ d.decompose total = .ok parts ∧
      amounts.Perm parts := by
  rw [isCanonical_iff]
  constructor
  · rintro ⟨total, added, decomposed⟩
    exact ⟨total, _, (Amount.exactSum_of_sum added).symm, decomposed, (sorted_perm amounts).symm⟩
  · rintro ⟨total, parts, added, decomposed, same⟩
    have made := ascending_of_decompose decomposed
    have ordered : d.Ascending total (sorted amounts) :=
      ascending_sorted (same.nodup_iff.2 made.nodup) (fun p mem =>
        made.supported p (same.subset mem)) added.symm
    refine ⟨total, ?_, decompose_eq_ok_iff.2 ordered⟩
    rw [Amount.sum_eq_ofExact, ← added]
    exact Amount.ofExact_of_lt total.lt

/-- That no more than 64 orders count makes no difference to numbers of 64 bits. -/
theorem lt_upTo {n order : Nat} (fits : n < 2 ^ 64) :
    n < 2 ^ (upTo order).order ↔ n < 2 ^ order := by
  show n < 2 ^ min order 64 ↔ n < 2 ^ order
  rcases Nat.le_total order 64 with le | ge
  · rw [Nat.min_eq_left le]
  · rw [Nat.min_eq_right ge]
    exact ⟨fun _ => fits.trans_le (Nat.pow_le_pow_right (by decide) ge), fun _ => fits⟩

/-- The largest of some numbers and a first one is reached by one of them. -/
theorem le_foldl_max {amounts : List Amount} {n first : Nat} :
    n ≤ amounts.foldl (fun n a => max n a.toNat) first ↔
      n ≤ first ∨ ∃ a ∈ amounts, n ≤ a.toNat := by
  induction amounts generalizing first with
  | nil => simp
  | cons a rest ih => rw [List.foldl_cons, ih, le_max_iff, List.exists_mem_cons_iff, or_assoc]

/-- The denominations that cover some amounts are those that are not above all of them. -/
theorem lt_order_covering {amounts : List Amount} {n : Nat} :
    n < (covering amounts).order ↔ ∃ a ∈ amounts, 2 ^ n ≤ a.toNat := by
  have reached (m : Nat) : m ≤ amounts.foldl (fun n a => max n a.toNat) 0 ↔
      m ≤ 0 ∨ ∃ a ∈ amounts, m ≤ a.toNat := le_foldl_max
  have covered : (∃ a ∈ amounts, 2 ^ n ≤ a.toNat) ↔
      2 ^ n ≤ amounts.foldl (fun n a => max n a.toNat) 0 := by
    rw [reached, or_iff_right (Nat.not_le.2 (Nat.two_pow_pos n))]
  have fits : amounts.foldl (fun n a => max n a.toNat) 0 < 2 ^ 64 := by
    by_contra beyond
    obtain none | ⟨a, -, large⟩ := (reached (2 ^ 64)).1 (Nat.not_lt.1 beyond)
    · exact absurd none (by decide)
    · exact absurd a.lt (Nat.not_lt.2 large)
  rw [covered, covering, upTo]
  dsimp only
  generalize amounts.foldl (fun n a => max n a.toNat) 0 = largest at fits
  by_cases zero : largest = 0
  · rw [if_pos zero, zero]
    simp
  · rw [if_neg zero, Nat.lt_min, Nat.lt_succ_iff, Nat.le_log2 zero]
    have digits := (Nat.log2_lt zero).2 fits
    refine and_iff_left_of_imp fun reaches => ?_
    exact ((Nat.le_log2 zero).2 reaches).trans_lt digits

/-- **Canonical denominations.** For any order, of which no more than 64 count: the denominations are
the powers of two below `2 ^ order`; an amount is refused, as too large, exactly if it is not below
that; otherwise there is exactly one ascending list of denominations with that exact sum, and the
amount is decomposed into it. Amounts are canonical exactly if they are distinct denominations, and
exactly if they are a permutation of what their exact sum is decomposed into. -/
theorem decompose_canonical (order : Nat) (a : Amount) (amounts : List Amount) :
    (∀ p, (upTo order).supports p ↔ ∃ k < order, p.toNat = 2 ^ k) ∧
      (∀ e, (upTo order).decompose a = .error e ↔ 2 ^ order ≤ a.toNat ∧ e = .tooLarge) ∧
      (a.toNat < 2 ^ order → ∃! parts, (upTo order).Ascending a parts) ∧
      (∀ parts, (upTo order).decompose a = .ok parts ↔ (upTo order).Ascending a parts) ∧
      ((upTo order).isCanonical amounts ↔
        amounts.Nodup ∧ ∀ p ∈ amounts, (upTo order).supports p) ∧
      ((upTo order).isCanonical amounts ↔ ∃ total parts,
        total.toNat = Amount.exactSum amounts ∧ (upTo order).decompose total = .ok parts ∧
          amounts.Perm parts) := by
  refine ⟨fun p => ?_, fun e => ?_, fun below => ?_, fun parts => decompose_eq_ok_iff,
    isCanonical_iff_nodup, isCanonical_iff_perm⟩
  · rw [supports_iff]
    refine exists_congr fun k => and_congr_left fun power => ?_
    have fits : 2 ^ k < 2 ^ 64 := power ▸ p.lt
    have least : 1 < 2 := by decide
    rw [← Nat.pow_lt_pow_iff_right least, lt_upTo fits, Nat.pow_lt_pow_iff_right least]
  · rw [decompose_eq_error, ← Nat.not_lt, ← Nat.not_lt]
    exact and_congr_left fun _ => not_congr (lt_upTo a.lt)
  · have done := decompose_eq_ok.2 ⟨(lt_upTo a.lt).2 below, rfl⟩
    exact ⟨_, ascending_of_decompose done,
      fun others made => made.unique (ascending_of_decompose done)⟩

end Denominations

end Chaumian
