import Chaumian.Denominations
import Mathlib

/-!
# Sums of amounts

A sum of amounts is the exact sum of their numbers or is refused, and it is refused only where the
exact sum does not fit 64 bits. The denominations that make up an amount add up to it.
-/

namespace Chaumian

namespace Amount

/-- The exact sum of amounts, of whatever size. -/
def exactSum (amounts : List Amount) : Nat := (amounts.map (·.toNat)).sum

@[simp] theorem exactSum_nil : exactSum [] = 0 := rfl

@[simp] theorem exactSum_cons (a : Amount) (amounts : List Amount) :
    exactSum (a :: amounts) = a.toNat + exactSum amounts := rfl

@[simp] theorem exactSum_append (amounts others : List Amount) :
    exactSum (amounts ++ others) = exactSum amounts + exactSum others := by
  simp [exactSum]

theorem exactSum_perm {amounts others : List Amount} (h : amounts.Perm others) :
    exactSum amounts = exactSum others :=
  (h.map _).sum_nat

theorem exactSum_map_fst_zip_le {β : Type} (amounts : List Amount) (others : List β) :
    exactSum ((amounts.zip others).map Prod.fst) ≤ exactSum amounts := by
  induction amounts generalizing others with
  | nil => exact Nat.le_refl 0
  | cons a rest ih =>
    cases others with
    | nil => exact Nat.zero_le _
    | cons b others => exact Nat.add_le_add_left (ih others) a.toNat

/-- The amount of a number, or that it is beyond the bound. -/
def ofExact (n : Nat) : Except Error Amount := (ofNat? n).elim (.error .overflow) .ok

theorem ofExact_of_lt {n : Nat} (h : n < Nat.pow 2 64) : ofExact n = .ok ⟨n, h⟩ := by
  rw [ofExact, ofNat?, dif_pos h]
  rfl

theorem ofExact_of_le {n : Nat} (h : Nat.pow 2 64 ≤ n) : ofExact n = .error .overflow := by
  rw [ofExact, ofNat?, dif_neg (Nat.not_lt.2 h)]
  rfl

theorem toNat_of_ofExact {n : Nat} {a : Amount} (h : ofExact n = .ok a) : a.toNat = n := by
  by_cases fits : n < Nat.pow 2 64
  · rw [ofExact_of_lt fits] at h
    cases h
    rfl
  · rw [ofExact_of_le (Nat.le_of_not_lt fits)] at h
    cases h

/-- A sum that stops at the first step beyond the bound is the exact sum, if that fits: no sum of
the first few amounts exceeds the sum of all of them. -/
theorem sum_eq_ofExact (amounts : List Amount) : sum amounts = ofExact (exactSum amounts) := by
  have general (total : Amount) :
      amounts.foldlM (fun total a => (total.add? a).elim (.error .overflow) .ok) total =
        ofExact (total.toNat + exactSum amounts) := by
    induction amounts generalizing total with
    | nil => exact (ofExact_of_lt total.lt).symm
    | cons a rest ih =>
      rw [List.foldlM_cons, exactSum_cons, ← Nat.add_assoc, add?, ofNat?]
      by_cases fits : total.toNat + a.toNat < Nat.pow 2 64
      · rw [dif_pos fits]
        exact ih ⟨total.toNat + a.toNat, fits⟩
      · rw [dif_neg fits, ofExact_of_le (by omega)]
        rfl
  rw [sum, general zero]
  exact congrArg ofExact (Nat.zero_add _)

theorem exactSum_of_sum {amounts : List Amount} {total : Amount} (h : sum amounts = .ok total) :
    exactSum amounts = total.toNat :=
  (toNat_of_ofExact ((sum_eq_ofExact amounts).symm.trans h)).symm

end Amount

namespace Denominations

variable {d : Denominations} {a : Amount} {parts amounts : List Amount}

/-- The denominations at the digits that a number has below an order. -/
theorem exactSum_digits (n : Nat) {order : Nat} (h : order ≤ 64) :
    Amount.exactSum ((List.range order).filterMap fun i =>
      if n.testBit i then Amount.ofNat? (Nat.pow 2 i) else none) = n % 2 ^ order := by
  induction order with
  | zero => simp [Nat.mod_one]
  | succ k ih =>
    have fits : Nat.pow 2 k < Nat.pow 2 64 := Nat.pow_lt_pow_right (by decide) (by omega)
    have digit : (n.testBit k).toNat = n / 2 ^ k % 2 := Nat.toNat_testBit n k
    rw [List.range_succ, List.filterMap_append, Amount.exactSum_append, ih (by omega),
      Nat.pow_succ, Nat.mod_mul, ← digit, List.filterMap_cons, Amount.ofNat?, dif_pos fits]
    cases n.testBit k with
    | false => rfl
    | true => simp

/-- What the denominations make up is any amount below their bound. -/
theorem decompose_eq_ok : d.decompose a = .ok parts ↔ a.toNat < 2 ^ d.order ∧
    parts = (List.range d.order).filterMap fun i =>
      if a.toNat.testBit i then Amount.ofNat? (Nat.pow 2 i) else none := by
  have positive : 0 < 2 ^ d.order := Nat.pow_pos (by decide)
  have bounded : a.toNat > d.largest ↔ ¬a.toNat < 2 ^ d.order := by
    show a.toNat > 2 ^ d.order - 1 ↔ _
    omega
  unfold decompose
  by_cases within : a.toNat < 2 ^ d.order
  · rw [if_neg (by rw [bounded, not_not]; exact within)]
    constructor
    · intro h
      cases h
      exact ⟨within, rfl⟩
    · exact fun h => congrArg Except.ok h.2.symm
  · rw [if_pos (bounded.2 within)]
    exact ⟨fun h => (nomatch h), fun h => absurd h.1 within⟩

/-- The denominations that make up an amount add up to it. -/
theorem exactSum_decompose (h : d.decompose a = .ok parts) : Amount.exactSum parts = a.toNat := by
  obtain ⟨below, rfl⟩ := decompose_eq_ok.1 h
  rw [exactSum_digits a.toNat d.le, Nat.mod_eq_of_lt below]

/-- The powers of two at the binary digits of a number of 64 bits, smallest first. -/
def binaryParts (n : Nat) : List Nat := ((List.range 64).filter fun i => n.testBit i).map (2 ^ ·)

/-- Whatever the order, the denominations that make up an amount are those of its digits. -/
theorem map_toNat_decompose (h : d.decompose a = .ok parts) :
    parts.map (·.toNat) = binaryParts a.toNat := by
  obtain ⟨below, rfl⟩ := decompose_eq_ok.1 h
  have digits (order : Nat) (le : order ≤ 64) : ((List.range order).filterMap fun i =>
      if a.toNat.testBit i then Amount.ofNat? (Nat.pow 2 i) else none).map (·.toNat) =
      ((List.range order).filter fun i => a.toNat.testBit i).map (2 ^ ·) := by
    induction order with
    | zero => rfl
    | succ k ih =>
      have fits : Nat.pow 2 k < Nat.pow 2 64 := Nat.pow_lt_pow_right (by decide) (by omega)
      rw [List.range_succ, List.filterMap_append, List.map_append, ih (by omega),
        List.filter_append, List.map_append, List.filterMap_cons, Amount.ofNat?, dif_pos fits]
      cases digit : a.toNat.testBit k <;> simp [digit]
  -- There are no digits from the order on.
  have none : ((List.range (64 - d.order)).map (d.order + ·)).filter (fun i => a.toNat.testBit i) =
      [] := by
    rw [List.filter_eq_nil_iff]
    intro i mem
    obtain ⟨j, -, rfl⟩ := List.mem_map.1 mem
    have high : 2 ^ d.order ≤ 2 ^ (d.order + j) := Nat.pow_le_pow_right (by decide) (by omega)
    rw [Nat.testBit_lt_two_pow (Nat.lt_of_lt_of_le below high)]
    exact Bool.false_ne_true
  have all : 64 = d.order + (64 - d.order) := (Nat.add_sub_cancel' d.le).symm
  rw [digits d.order d.le, binaryParts, all, List.range_add, List.filter_append, none,
    List.append_nil]

/-- The amounts of a list in the order in which they are compared. -/
def sorted (amounts : List Amount) : List Amount := amounts.mergeSort (·.toNat ≤ ·.toNat)

/-- Canonical amounts are those that, in order, are what their sum is decomposed into. -/
theorem isCanonical_iff : d.isCanonical amounts ↔
    ∃ total, Amount.sum amounts = .ok total ∧ d.decompose total = .ok (sorted amounts) := by
  unfold isCanonical
  rcases added : Amount.sum amounts with e | total
  · simp
  · rcases decomposed : d.decompose total with e | parts
    · simp [decomposed]
    · simp [decomposed, sorted]

/-- Amounts that are the denominations of what they add up to are its digits, once in order. -/
theorem map_toNat_of_isCanonical (canonical : d.isCanonical amounts)
    (ordered : amounts.Pairwise fun a b => a.toNat ≤ b.toNat) :
    amounts.map (·.toNat) = binaryParts (Amount.exactSum amounts) := by
  obtain ⟨total, added, decomposed⟩ := isCanonical_iff.1 canonical
  rw [sorted, List.mergeSort_of_pairwise (ordered.imp fun le => decide_eq_true le)] at decomposed
  rw [Amount.exactSum_of_sum added, ← map_toNat_decompose decomposed]

end Denominations

end Chaumian
