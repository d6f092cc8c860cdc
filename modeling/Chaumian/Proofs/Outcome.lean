import Mathlib

/-!
# Taking outcomes apart

What can be said of the parts of a computation that has succeeded.
-/

namespace Chaumian

variable {ε ε' α β γ : Type}

theorem bind_eq_ok {r : Except ε α} {f : α → Except ε β} {b : β} :
    (r >>= f) = .ok b ↔ ∃ a, r = .ok a ∧ f a = .ok b := by
  cases r with
  | error e => exact ⟨fun h => (nomatch h), fun ⟨_, h, _⟩ => (nomatch h)⟩
  | ok a => exact ⟨fun h => ⟨a, rfl, h⟩, fun ⟨_, same, h⟩ => by cases same; exact h⟩

theorem mapError_eq_ok {r : Except ε α} {f : ε → ε'} {a : α} :
    r.mapError f = .ok a ↔ r = .ok a := by
  cases r with
  | error e => exact ⟨fun h => (nomatch h), fun h => (nomatch h)⟩
  | ok b => exact ⟨fun h => by cases h; rfl, fun h => by cases h; rfl⟩

theorem elim_eq_ok {o : Option α} {e : ε} {a : α} :
    o.elim (.error e) Except.ok = .ok a ↔ o = some a := by
  cases o with
  | none => exact ⟨fun h => (nomatch h), fun h => (nomatch h)⟩
  | some b => exact ⟨fun h => by cases h; rfl, fun h => by cases h; rfl⟩

/-- A computation fails in its first part or in what follows it. -/
theorem bind_eq_error {r : Except ε α} {f : α → Except ε β} {e : ε} :
    (r >>= f) = .error e ↔ r = .error e ∨ ∃ a, r = .ok a ∧ f a = .error e := by
  cases r with
  | error e' =>
    refine ⟨fun h => .inl (by cases h; rfl), ?_⟩
    rintro (h | ⟨_, h, _⟩)
    · cases h
      rfl
    · cases h
  | ok a =>
    refine ⟨fun h => .inr ⟨a, rfl, h⟩, ?_⟩
    rintro (h | ⟨_, same, h⟩)
    · cases h
    · cases same
      exact h

theorem mapError_eq_error {r : Except ε α} {f : ε → ε'} {e : ε'} :
    r.mapError f = .error e ↔ ∃ cause, r = .error cause ∧ f cause = e := by
  cases r with
  | error cause =>
    constructor
    · exact fun h => ⟨cause, rfl, by cases h; rfl⟩
    · rintro ⟨_, same, rfl⟩
      cases same
      rfl
  | ok a => exact ⟨fun h => (nomatch h), fun ⟨_, h, _⟩ => (nomatch h)⟩

/-- Where a condition is checked first, success means that nothing was found wrong. -/
theorem guard_eq_ok {c : Prop} [Decidable c] {e : ε} {next : PUnit → Except ε α} {a : α} :
    (if c then MonadExcept.throw e >>= next else next ⟨⟩) = .ok a ↔ ¬c ∧ next ⟨⟩ = .ok a := by
  by_cases wrong : c
  · rw [if_pos wrong]
    exact ⟨fun h => (nomatch h), fun h => absurd wrong h.1⟩
  · rw [if_neg wrong]
    exact ⟨fun h => ⟨wrong, h⟩, fun h => h.2⟩

theorem guard_eq_error {c : Prop} [Decidable c] {e e' : ε} {next : PUnit → Except ε α} :
    (if c then MonadExcept.throw e >>= next else next ⟨⟩) = .error e' ↔
      c ∧ e' = e ∨ ¬c ∧ next ⟨⟩ = .error e' := by
  by_cases wrong : c
  · rw [if_pos wrong]
    constructor
    · intro h
      cases h
      exact .inl ⟨wrong, rfl⟩
    · rintro (⟨-, rfl⟩ | ⟨right, -⟩)
      · rfl
      · exact absurd wrong right
  · rw [if_neg wrong]
    exact ⟨fun h => .inr ⟨wrong, h⟩, fun h => h.elim (fun h => absurd h.1 wrong) And.right⟩

/-- A list goes through a computation if each of its elements does. -/
theorem mapM_eq_ok {f : α → Except ε β} {as : List α} {bs : List β} :
    as.mapM f = .ok bs ↔ List.Forall₂ (fun a b => f a = .ok b) as bs := by
  induction as generalizing bs with
  | nil =>
    rw [List.mapM_nil, List.forall₂_nil_left_iff]
    exact ⟨fun h => by cases h; rfl, fun h => by subst h; rfl⟩
  | cons a rest ih =>
    rw [List.mapM_cons, bind_eq_ok, List.forall₂_cons_left_iff]
    constructor
    · rintro ⟨b, first, h⟩
      obtain ⟨others, later, h⟩ := bind_eq_ok.1 h
      cases h
      exact ⟨b, others, first, ih.1 later, rfl⟩
    · rintro ⟨b, others, first, later, rfl⟩
      exact ⟨b, first, bind_eq_ok.2 ⟨others, ih.2 later, rfl⟩⟩

/-- A list that does not go through a computation has an element that does not. -/
theorem exists_of_mapM_eq_error {f : α → Except ε β} {as : List α} {e : ε}
    (h : as.mapM f = .error e) : ∃ a ∈ as, f a = .error e := by
  induction as with
  | nil => cases h
  | cons a rest ih =>
    rw [List.mapM_cons] at h
    obtain first | ⟨b, -, h⟩ := bind_eq_error.1 h
    · exact ⟨a, List.mem_cons_self, first⟩
    · obtain later | ⟨others, -, h⟩ := bind_eq_error.1 h
      · obtain ⟨a', mem, failed⟩ := ih later
        exact ⟨a', List.mem_cons_of_mem _ mem, failed⟩
      · cases h

/-- Elements beside each other have what the relation of their lists says of them. -/
theorem map_eq_of_forall₂ {R : α → β → Prop} {f : α → γ} {g : β → γ} {as : List α} {bs : List β}
    (h : List.Forall₂ R as bs) (same : ∀ a b, R a b → f a = g b) : as.map f = bs.map g := by
  induction h with
  | nil => rfl
  | cons first _ ih => rw [List.map_cons, List.map_cons, same _ _ first, ih]

theorem exists_of_mem_forall₂ {R : α → β → Prop} {as : List α} {bs : List β}
    (h : List.Forall₂ R as bs) {b : β} (mem : b ∈ bs) : ∃ a ∈ as, R a b := by
  induction h with
  | nil => cases mem
  | cons first _ ih =>
    rcases List.mem_cons.1 mem with rfl | mem
    · exact ⟨_, List.mem_cons_self, first⟩
    · obtain ⟨a, later, related⟩ := ih mem
      exact ⟨a, List.mem_cons_of_mem _ later, related⟩

/-- Elements beside each other in a row of lists. -/
theorem forall₂_comp {R : α → β → Prop} {R' : β → γ → Prop} {as : List α} {bs : List β}
    {cs : List γ} (h : List.Forall₂ R as bs) (h' : List.Forall₂ R' bs cs) :
    List.Forall₂ (fun a c => ∃ b, R a b ∧ R' b c) as cs := by
  induction h generalizing cs with
  | nil =>
    cases h'
    exact .nil
  | cons first _ ih =>
    rcases h' with _ | ⟨next, others⟩
    exact .cons ⟨_, first, next⟩ (ih others)

/-- Lists are related if they are equally long and their elements are related place by place. -/
theorem forall₂_iff_getElem? {R : α → β → Prop} {as : List α} {bs : List β} :
    List.Forall₂ R as bs ↔ as.length = bs.length ∧
      ∀ (i : Nat) a b, as[i]? = some a → bs[i]? = some b → R a b := by
  rw [List.forall₂_iff_get]
  refine and_congr_right fun same => ⟨fun h i a b there there' => ?_, fun h i within within' => ?_⟩
  · obtain ⟨within, rfl⟩ := List.getElem?_eq_some_iff.1 there
    obtain ⟨within', rfl⟩ := List.getElem?_eq_some_iff.1 there'
    exact h i within within'
  · exact h i _ _ (List.getElem?_eq_getElem within) (List.getElem?_eq_getElem within')

/-- Lists that are equally long have something at the same places. -/
theorem exists_getElem? {as : List α} {bs : List β} (same : as.length = bs.length) {i : Nat} {a : α}
    (there : as[i]? = some a) : ∃ b, bs[i]? = some b := by
  obtain ⟨within, -⟩ := List.getElem?_eq_some_iff.1 there
  exact ⟨_, List.getElem?_eq_getElem (same ▸ within)⟩

/-- What is related to pairs is related to the first of their second halves. -/
theorem forall₂_take_of_zip {R : α → β → γ → Prop} {as : List α} {bs : List β} {cs : List γ}
    (h : List.Forall₂ (fun (pair : α × β) c => R pair.1 pair.2 c) (as.zip bs) cs) :
    List.Forall₂ (fun b c => ∃ a, R a b c) (bs.take cs.length) cs := by
  induction as generalizing bs cs with
  | nil =>
    cases h
    exact .nil
  | cons a rest ih =>
    cases bs with
    | nil =>
      cases h
      exact .nil
    | cons b others =>
      rcases h with _ | ⟨first, later⟩
      exact .cons ⟨a, first⟩ (ih later)

/-- Where each element of a list is related to something, the list is related to a list. -/
theorem exists_forall₂ {R : α → β → Prop} {as : List α} (h : ∀ a ∈ as, ∃ b, R a b) :
    ∃ bs, List.Forall₂ R as bs := by
  induction as with
  | nil => exact ⟨[], .nil⟩
  | cons a rest ih =>
    obtain ⟨b, first⟩ := h a List.mem_cons_self
    obtain ⟨bs, later⟩ := ih fun a mem => h a (List.mem_cons_of_mem _ mem)
    exact ⟨b :: bs, .cons first later⟩

theorem nodup_of_forall₂ {R : α → β → Prop} {as : List α} {bs : List β}
    (h : List.Forall₂ R as bs) (distinct : as.Nodup)
    (apart : ∀ a ∈ as, ∀ a' ∈ as, ∀ b, R a b → R a' b → a = a') : bs.Nodup := by
  induction h with
  | nil => exact .nil
  | @cons a b as bs first later ih =>
    obtain ⟨new, distinct⟩ := List.nodup_cons.1 distinct
    refine List.nodup_cons.2 ⟨fun again => ?_, ih distinct fun a mem a' mem' =>
      apart a (List.mem_cons_of_mem _ mem) a' (List.mem_cons_of_mem _ mem')⟩
    obtain ⟨a', mem, related⟩ := exists_of_mem_forall₂ later again
    exact new (apart a List.mem_cons_self a' (List.mem_cons_of_mem _ mem) b first related ▸ mem)

theorem find?_of_nodup {κ : Type} [DecidableEq κ] {key : α → κ} {l : List α}
    (distinct : (l.map key).Nodup) {a : α} (mem : a ∈ l) : l.find? (key · = key a) = some a := by
  induction l with
  | nil => cases mem
  | cons b rest ih =>
    rw [List.map_cons, List.nodup_cons] at distinct
    obtain ⟨apart, distinct⟩ := distinct
    rcases List.mem_cons.1 mem with rfl | mem
    · simp
    · have different : key b ≠ key a := fun same => apart (same ▸ List.mem_map_of_mem mem)
      rw [List.find?_cons_of_neg (by simpa using different)]
      exact ih distinct mem

end Chaumian
