import Chaumian.Denominations
import Chaumian.Key

/-!
The public keys of a mint: one for each denomination it signs.
-/

namespace Chaumian

/-- Public keys by amount, smallest amount first, each amount once. -/
structure Keys (S : Suite) where
  entries : List (Amount × S.Point)
  sorted : entries.Pairwise (·.1 < ·.1)

namespace Keys

variable {S : Suite}

/-- Entries with one of them put in, in place of an earlier one of the same amount. -/
def insertEntry (amount : Amount) (key : α) : List (Amount × α) → List (Amount × α)
  | [] => [(amount, key)]
  | (a, k) :: rest =>
    if amount < a then (amount, key) :: (a, k) :: rest
    else if amount = a then (amount, key) :: rest
    else (a, k) :: insertEntry amount key rest

theorem mem_insertEntry {amount : Amount} {key : α} {e : Amount × α} :
    {entries : List (Amount × α)} → e ∈ insertEntry amount key entries →
      e = (amount, key) ∨ e ∈ entries
  | [], h => by simpa [insertEntry] using h
  | (a, k) :: rest, h => by
    simp only [insertEntry] at h
    split at h
    · simpa using h
    · split at h
      · simp only [List.mem_cons] at h ⊢
        rcases h with h | h
        · exact .inl h
        · exact .inr (.inr h)
      · simp only [List.mem_cons] at h ⊢
        rcases h with h | h
        · exact .inr (.inl h)
        · rcases mem_insertEntry h with h | h
          · exact .inl h
          · exact .inr (.inr h)

theorem pairwise_insertEntry (amount : Amount) (key : α) :
    {entries : List (Amount × α)} → entries.Pairwise (·.1 < ·.1) →
      (insertEntry amount key entries).Pairwise (·.1 < ·.1)
  | [], _ => by simp [insertEntry]
  | (a, k) :: rest, h => by
    have ⟨first, others⟩ := List.pairwise_cons.1 h
    simp only [insertEntry]
    split
    · refine List.pairwise_cons.2 ⟨fun e he => ?_, h⟩
      rcases List.mem_cons.1 he with rfl | he
      · assumption
      · exact Nat.lt_trans (by assumption) (first e he)
    · split
      · rename_i same
        subst same
        exact List.pairwise_cons.2 ⟨first, others⟩
      · rename_i notBelow notSame
        refine List.pairwise_cons.2 ⟨fun e he => ?_, pairwise_insertEntry amount key others⟩
        rcases mem_insertEntry he with rfl | he
        · refine Nat.lt_of_le_of_ne (Nat.le_of_not_lt notBelow) fun same => notSame ?_
          exact (Amount.ext same).symm
        · exact first e he

/-- No keys. -/
def empty : Keys S := ⟨[], .nil⟩

/-- The keys with one of them put in. -/
def insert (keys : Keys S) (amount : Amount) (key : S.Point) : Keys S :=
  ⟨insertEntry amount key keys.entries, pairwise_insertEntry amount key keys.sorted⟩

/-- The keys of a list of entries; of two for one amount the later one counts. -/
def ofList (entries : List (Amount × S.Point)) : Keys S :=
  entries.foldl (fun keys (amount, key) => keys.insert amount key) empty

/-- The key of an amount. -/
def get? (keys : Keys S) (amount : Amount) : Option S.Point :=
  (keys.entries.find? (·.1 = amount)).map (·.2)

/-- The number of keys. -/
def size (keys : Keys S) : Nat := keys.entries.length

instance : DecidableEq (Keys S) := fun a b =>
  decidable_of_iff (a.entries = b.entries)
    ⟨fun h => by cases a; cases b; cases h; rfl, fun h => by rw [h]⟩

/-- The denominations up to the largest that has a key. -/
def denominations (keys : Keys S) : Denominations := .covering (keys.entries.map (·.1))

/-- Keys in JSON are an object with the amounts for names. -/
def codec (S : Suite) : Json.Codec (Keys S) :=
  (Json.Codec.entries 64 (Key.publicCodec S)).map
    (fun entries => ofList (entries.map fun (n, key) => (Amount.ofFin n, key)))
    (fun keys => keys.entries.map fun (a, key) => (a.toFin, key))

end Keys

end Chaumian
