import Chaumian.Proofs.Outcome
import Chaumian.Store.Basic

/-!
# What the operations of a store do

Rows are kept under their points, so that what an operation does to a store is a single pass over
its rows: `spend` and `setStatus` change the rows of the points they are given, and `update` adds
new rows behind the others. Setting proofs aside and freeing them again gives the store there was
before. A keyset is added behind the others too, unless there is one under its identifier: `learn`.
-/

namespace Chaumian

/-- A row in another state. -/
def StoredProof.withStatus {S : Suite} (status : ProofStatus) (p : StoredProof S) : StoredProof S :=
  { p with row := { p.row with status := status } }

namespace Store

variable {S : Suite} {store store' : Store S}

/-! ## Rows under their points -/

theorem put_of_notMem {α κ : Type} [DecidableEq κ] {key : α → κ} {x : α} {l : List α}
    (new : key x ∉ l.map key) : put key x l = l ++ [x] := by
  induction l with
  | nil => rfl
  | cons a rest ih =>
    rw [List.map_cons, List.mem_cons, not_or] at new
    rw [put, if_neg (Ne.symm new.1), ih new.2]
    rfl

/-- Under the key of an element that is put in there is this one, and under others what was. -/
theorem find?_put {α κ : Type} [DecidableEq κ] {key : α → κ} (x : α) (l : List α) (k : κ) :
    (put key x l).find? (key · = k) = if key x = k then some x else l.find? (key · = k) := by
  induction l with
  | nil => by_cases here : key x = k <;> simp [put, here]
  | cons a rest ih =>
    unfold put
    by_cases same : key a = key x
    · rw [if_pos same, List.find?_cons, List.find?_cons, same]
      by_cases here : key x = k <;> simp [here]
    · rw [if_neg same, List.find?_cons, List.find?_cons, ih]
      by_cases there : key a = k
      · simp [there, show key x ≠ k from fun h => same (there.trans h.symm)]
      · simp [there]

theorem mem_of_mem_put {α κ : Type} [DecidableEq κ] {key : α → κ} {x a : α} {l : List α}
    (mem : a ∈ put key x l) : a = x ∨ a ∈ l := by
  induction l with
  | nil => exact .inl (List.mem_singleton.1 mem)
  | cons b rest ih =>
    unfold put at mem
    split at mem
    · rcases List.mem_cons.1 mem with rfl | mem
      · exact .inl rfl
      · exact .inr (List.mem_cons_of_mem _ mem)
    · rcases List.mem_cons.1 mem with rfl | mem
      · exact .inr List.mem_cons_self
      · exact (ih mem).imp id (List.mem_cons_of_mem _)

/-- No two proofs that are held have one point. -/
def Keyed (store : Store S) : Prop := (store.held.map (·.y)).Nodup

theorem mem_held {row : ProofRow S} : row ∈ store.held ↔ ⟨row, false⟩ ∈ store.proofs := by
  simp only [held, List.mem_map, List.mem_filter, Bool.not_eq_true']
  constructor
  · rintro ⟨⟨_, _⟩, ⟨mem, rfl⟩, rfl⟩
    exact mem
  · exact fun mem => ⟨_, ⟨mem, rfl⟩, rfl⟩

theorem mem_archive {row : ProofRow S} : row ∈ store.archive ↔ ⟨row, true⟩ ∈ store.proofs := by
  simp only [archive, List.mem_map, List.mem_filter]
  constructor
  · rintro ⟨⟨_, _⟩, ⟨mem, rfl⟩, rfl⟩
    exact mem
  · exact fun mem => ⟨_, ⟨mem, rfl⟩, rfl⟩

theorem Keyed.held? (keyed : store.Keyed) {row : ProofRow S} (mem : row ∈ store.held) :
    store.held? row.y = some row :=
  find?_of_nodup keyed mem

theorem Keyed.isHeldIn (keyed : store.Keyed) {row : ProofRow S} (mem : row ∈ store.held)
    (status : ProofStatus) : store.isHeldIn status row.y = decide (row.status = status) := by
  rw [Store.isHeldIn, keyed.held? mem]

theorem Keyed.isHeldIn_iff (keyed : store.Keyed) {status : ProofStatus} {y : S.Point} :
    store.isHeldIn status y = true ↔ ∃ row ∈ store.held, row.y = y ∧ row.status = status := by
  constructor
  · intro held
    unfold Store.isHeldIn at held
    split at held
    · rename_i row found
      refine ⟨row, List.mem_of_find?_eq_some found, ?_, by simpa using held⟩
      simpa using List.find?_some found
    · cases held
  · rintro ⟨row, held, rfl, rfl⟩
    rw [keyed.isHeldIn held, decide_eq_true rfl]

/-! ## Changing rows -/

/-- A store with the rows of some points changed where they are held. -/
def modifyAll (f : StoredProof S → StoredProof S) (ys : List S.Point) (store : Store S) : Store S :=
  { store with proofs := store.proofs.map fun p => if p.row.y ∈ ys ∧ !p.archived then f p else p }

/-- Changing rows one after the other is one pass, if a change does no more the second time. -/
theorem foldl_modifyHeld {f : StoredProof S → StoredProof S}
    (once : ∀ p, (f p).archived = false → f (f p) = f p) (ys : List S.Point) (store : Store S) :
    ys.foldl (fun store y => store.modifyHeld f y) store = store.modifyAll f ys := by
  induction ys generalizing store with
  | nil => simp [modifyAll]
  | cons y rest ih =>
    rw [List.foldl_cons, ih, modifyAll, modifyHeld, modifyAll, List.map_map]
    congr 1
    refine List.map_congr_left fun p _ => ?_
    simp only [Function.comp_apply, List.mem_cons]
    by_cases here : p.row.y = y ∧ !p.archived
    · rw [if_pos here, if_pos (⟨Or.inl here.1, here.2⟩ : (p.row.y = y ∨ _) ∧ _)]
      split
      · rename_i again
        exact once p (by simpa using again.2)
      · rfl
    · rw [if_neg here]
      refine if_congr ?_ rfl rfl
      constructor
      · exact fun ⟨later, free⟩ => ⟨.inr later, free⟩
      · rintro ⟨rfl | later, free⟩
        · exact absurd ⟨rfl, free⟩ here
        · exact ⟨later, free⟩

theorem foldl_spend (meltId : Option String) (ys : List S.Point) (store : Store S) :
    ys.foldl (spend meltId) store = store.modifyAll (StoredProof.archive meltId) ys :=
  foldl_modifyHeld (f := StoredProof.archive meltId) (fun _ held => nomatch held) ys store

theorem foldl_setStatus (status : ProofStatus) (ys : List S.Point) (store : Store S) :
    ys.foldl (setStatus status) store = store.modifyAll (StoredProof.withStatus status) ys :=
  foldl_modifyHeld (f := StoredProof.withStatus status) (fun _ _ => rfl) ys store

/-- A row that is set aside, free again. -/
def freed (p : StoredProof S) : StoredProof S :=
  if p.row.status = .reserved then p.withStatus .unspent else p

theorem freed_y (p : StoredProof S) : (freed p).row.y = p.row.y := by
  unfold freed
  split <;> rfl

theorem freed_proof (p : StoredProof S) : (freed p).row.proof = p.row.proof := by
  unfold freed
  split <;> rfl

theorem freed_archived (p : StoredProof S) : (freed p).archived = p.archived := by
  unfold freed
  split <;> rfl

theorem freed_freed (p : StoredProof S) : freed (freed p) = freed p := by
  by_cases reserved : p.row.status = .reserved
  · have free : freed p = p.withStatus .unspent := if_pos reserved
    rw [free]
    rfl
  · have kept : freed p = p := if_neg reserved
    rw [kept, kept]

theorem map_ys_modifyAll {f : StoredProof S → StoredProof S} (keeps : ∀ p, (f p).row.y = p.row.y)
    (ys : List S.Point) :
    (store.modifyAll f ys).proofs.map (·.row.y) = store.proofs.map (·.row.y) := by
  rw [modifyAll, List.map_map]
  refine List.map_congr_left fun p _ => ?_
  simp only [Function.comp_apply]
  split
  · exact keeps p
  · rfl

theorem map_ys_withStatus (store : Store S) (status : ProofStatus) (ys : List S.Point) :
    (store.modifyAll (StoredProof.withStatus status) ys).proofs.map (·.row.y) =
      store.proofs.map (·.row.y) :=
  map_ys_modifyAll (f := StoredProof.withStatus status) (fun _ => rfl) ys

/-- A change that keeps rows held. -/
theorem held_modifyAll {f : StoredProof S → StoredProof S}
    (stays : ∀ p, (f p).archived = p.archived) (ys : List S.Point) :
    (store.modifyAll f ys).held =
      store.held.map fun row => if row.y ∈ ys then (f ⟨row, false⟩).row else row := by
  unfold held modifyAll
  dsimp only
  induction store.proofs with
  | nil => rfl
  | cons p rest ih =>
    obtain ⟨row, archived⟩ := p
    cases archived with
    | true => simpa using ih
    | false =>
      by_cases here : row.y ∈ ys
      · simpa [here, stays] using ih
      · simpa [here] using ih

theorem archive_modifyAll {f : StoredProof S → StoredProof S}
    (stays : ∀ p, (f p).archived = p.archived) (ys : List S.Point) :
    (store.modifyAll f ys).archive = store.archive := by
  unfold archive modifyAll
  dsimp only
  induction store.proofs with
  | nil => rfl
  | cons p rest ih =>
    obtain ⟨row, archived⟩ := p
    cases archived with
    | true => simpa using ih
    | false =>
      by_cases here : row.y ∈ ys
      · simpa [here, stays] using ih
      · simpa [here] using ih

/-- A change that keeps rows held, and something of each row. -/
theorem map_held_modifyAll {β : Type} {g : ProofRow S → β} {f : StoredProof S → StoredProof S}
    (keeps : ∀ p, g (f p).row = g p.row) (stays : ∀ p, (f p).archived = p.archived)
    (ys : List S.Point) : (store.modifyAll f ys).held.map g = store.held.map g := by
  rw [held_modifyAll stays, List.map_map]
  refine List.map_congr_left fun row _ => ?_
  simp only [Function.comp_apply]
  split
  · exact keeps ⟨row, false⟩
  · rfl

theorem filter_held_withStatus (status : ProofStatus) (ys : List S.Point) :
    (store.modifyAll (StoredProof.withStatus status) ys).held.filter (·.y ∉ ys) =
      store.held.filter (·.y ∉ ys) := by
  rw [held_modifyAll (f := StoredProof.withStatus status) fun _ => rfl]
  induction store.held with
  | nil => rfl
  | cons row rest ih =>
    by_cases here : row.y ∈ ys
    · simpa [here, StoredProof.withStatus] using ih
    · simpa [here] using ih

/-- What is held when some rows are in another state: all others, and these. -/
theorem held_withStatus_perm (status : ProofStatus) (ys : List S.Point) :
    (store.modifyAll (StoredProof.withStatus status) ys).held.Perm
      (store.held.filter (·.y ∉ ys) ++
        (store.held.filter (·.y ∈ ys)).map fun row => { row with status }) := by
  rw [held_modifyAll (f := StoredProof.withStatus status) fun _ => rfl]
  induction store.held with
  | nil => exact .nil
  | cons row rest ih =>
    by_cases here : row.y ∈ ys
    · simp only [List.map_cons, here, List.filter_cons, not_true, decide_true, decide_false,
        if_true, if_false, Bool.false_eq_true]
      exact (ih.cons _).trans List.perm_middle.symm
    · simp only [List.map_cons, here, List.filter_cons, not_false_eq_true, decide_true,
        decide_false, if_true, if_false, Bool.false_eq_true, List.cons_append]
      exact ih.cons _

/-- Freeing a proof changes no row but the one that is held under its point. -/
theorem unreserve_one (keyed : store.Keyed) (y : S.Point) :
    (if store.isHeldIn .reserved y then store.setStatus .unspent y else store) =
      store.modifyHeld freed y := by
  have held (p : StoredProof S) (mem : p ∈ store.proofs) (here : p.row.y = y ∧ !p.archived) :
      store.isHeldIn .reserved y = decide (p.row.status = .reserved) := by
    obtain ⟨row, archived⟩ := p
    obtain ⟨rfl, free⟩ := here
    obtain rfl : archived = false := by simpa using free
    exact keyed.isHeldIn (mem_held.2 mem) _
  unfold setStatus modifyHeld
  by_cases reserved : store.isHeldIn .reserved y
  · rw [if_pos reserved]
    congr 1
    refine List.map_congr_left fun p mem => if_ctx_congr Iff.rfl (fun here => ?_) fun _ => rfl
    rw [held p mem here] at reserved
    exact (if_pos (of_decide_eq_true reserved)).symm
  · rw [if_neg reserved]
    have unchanged : store.proofs.map (fun p => if p.row.y = y ∧ !p.archived then freed p else p) =
        store.proofs := by
      refine (List.map_congr_left fun p mem => ?_).trans (List.map_id _)
      split
      · rename_i here
        rw [held p mem here] at reserved
        exact if_neg (by simpa using reserved)
      · rfl
    rw [unchanged]

theorem Keyed.modifyHeld_freed (keyed : store.Keyed) (y : S.Point) :
    (store.modifyHeld freed y).Keyed := by
  have one : store.modifyHeld freed y = store.modifyAll freed [y] :=
    foldl_modifyHeld (fun p _ => freed_freed p) [y] store
  rw [one, Keyed, map_held_modifyAll freed_y freed_archived]
  exact keyed

theorem unreserve_eq (keyed : store.Keyed) (ys : List S.Point) :
    store.unreserve ys = store.modifyAll freed ys := by
  rw [← foldl_modifyHeld (fun p _ => freed_freed p), unreserve]
  induction ys generalizing store with
  | nil => rfl
  | cons y rest ih =>
    rw [List.foldl_cons, List.foldl_cons, unreserve_one keyed]
    exact ih (keyed.modifyHeld_freed y)

/-- Proofs that are set aside were all free. -/
theorem reserve_eq_ok {ys : List S.Point} (h : store.reserve ys = .ok store') :
    (∀ y ∈ ys, store.isHeldIn .unspent y) ∧
      store' = store.modifyAll (StoredProof.withStatus .reserved) ys := by
  unfold reserve at h
  split at h
  · cases h
  · rename_i free
    refine ⟨fun y mem => ?_, ?_⟩
    · simpa using List.find?_eq_none.1 free y mem
    · cases h
      exact foldl_setStatus .reserved ys store

theorem Keyed.modifyAll_withStatus (keyed : store.Keyed) (status : ProofStatus)
    (ys : List S.Point) : (store.modifyAll (StoredProof.withStatus status) ys).Keyed := by
  rw [Keyed, map_held_modifyAll (f := StoredProof.withStatus status) (fun _ => rfl) fun _ => rfl]
  exact keyed

/-- Proofs that are set aside and freed again are as they were. -/
theorem unreserve_reserve (keyed : store.Keyed) {ys : List S.Point}
    (h : store.reserve ys = .ok store') : store'.unreserve ys = store := by
  obtain ⟨free, rfl⟩ := reserve_eq_ok h
  rw [unreserve_eq (keyed.modifyAll_withStatus .reserved ys), modifyAll, modifyAll, List.map_map]
  have back : store.proofs.map ((fun p => if p.row.y ∈ ys ∧ !p.archived then freed p else p) ∘
      fun p => if p.row.y ∈ ys ∧ !p.archived then p.withStatus .reserved else p) =
      store.proofs := by
    refine (List.map_congr_left fun p mem => ?_).trans (List.map_id _)
    rw [Function.comp_apply, id]
    by_cases here : p.row.y ∈ ys ∧ !p.archived
    · obtain ⟨⟨proof, y, status, mintId, meltId⟩, archived⟩ := p
      obtain rfl : archived = false := by simpa using here.2
      have unspent := free _ here.1
      rw [keyed.isHeldIn (mem_held.2 mem), decide_eq_true_eq] at unspent
      obtain rfl : status = .unspent := unspent
      rw [if_pos here]
      exact if_pos here
    · rw [if_neg here]
      exact if_neg here
  rw [back]

/-! ## Adding rows -/

/-- Rows of new points are put behind the others. -/
theorem foldl_hold {rows : List (ProofRow S)} (distinct : (rows.map (·.y)).Nodup)
    (new : ∀ row ∈ rows, row.y ∉ store.proofs.map (·.row.y)) :
    rows.foldl hold store = { store with proofs := store.proofs ++ rows.map (⟨·, false⟩) } := by
  induction rows generalizing store with
  | nil => simp
  | cons row rest ih =>
    rw [List.map_cons, List.nodup_cons] at distinct
    have first : store.hold row = { store with proofs := store.proofs ++ [⟨row, false⟩] } := by
      rw [hold, put_of_notMem (new row List.mem_cons_self)]
    have later (other : ProofRow S) (mem : other ∈ rest) :
        other.y ∉ (store.hold row).proofs.map (·.row.y) := by
      rw [first, List.map_append, List.mem_append, not_or]
      refine ⟨new other (List.mem_cons_of_mem _ mem), fun same => distinct.1 ?_⟩
      have same : other.y = row.y := List.mem_singleton.1 same
      exact same ▸ List.mem_map_of_mem mem
    rw [List.foldl_cons, ih distinct.2 later, first]
    simp

theorem isArchived_iff {y : S.Point} :
    store.isArchived y ↔ ∃ row ∈ store.archive, row.y = y := by
  simp [isArchived]

/-- The store there is when rows of new points have been added and others archived. -/
def exchange (store : Store S) (added : List (ProofRow S)) (removed : List S.Point)
    (meltId : Option String) : Store S :=
  { store with
    proofs := (store.modifyAll (StoredProof.archive meltId) removed).proofs ++
      added.map (⟨·, false⟩) }

theorem proofs_exchange_nil (store : Store S) (added : List (ProofRow S)) (meltId : Option String) :
    (store.exchange added [] meltId).proofs = store.proofs ++ added.map (⟨·, false⟩) := by
  simp [exchange, modifyAll]

theorem map_ys_exchange (store : Store S) (added : List (ProofRow S)) (removed : List S.Point)
    (meltId : Option String) : (store.exchange added removed meltId).proofs.map (·.row.y) =
      store.proofs.map (·.row.y) ++ added.map (·.y) := by
  rw [exchange, List.map_append,
    map_ys_modifyAll (f := StoredProof.archive meltId) (fun _ => rfl), List.map_map]
  rfl

/-- Adding rows of new points and archiving others: the latter is one pass over the rows there are,
and the new rows stand behind them. -/
theorem update_of_new {added : List (ProofRow S)} {removed : List S.Point} (meltId : Option String)
    (distinct : (added.map (·.y)).Nodup)
    (new : ∀ row ∈ added, row.y ∉ store.proofs.map (·.row.y))
    (apart : ∀ row ∈ added, row.y ∉ removed) :
    store.update added removed meltId = .ok (store.exchange added removed meltId) := by
  have unarchived : added.any (store.isArchived ·.y) = false := by
    rw [List.any_eq_false]
    intro row mem archived
    obtain ⟨other, kept, same⟩ := isArchived_iff.1 archived
    exact new row mem (same ▸ List.mem_map.2 ⟨_, mem_archive.1 kept, rfl⟩)
  rw [update, unarchived, if_neg (by decide), foldl_spend, foldl_hold distinct new, exchange,
    modifyAll, modifyAll, List.map_append]
  have untouched : (added.map fun row => (⟨row, false⟩ : StoredProof S)).map
      (fun p => if p.row.y ∈ removed ∧ !p.archived then StoredProof.archive meltId p else p) =
      added.map (⟨·, false⟩) := by
    rw [List.map_map]
    exact List.map_congr_left fun row mem => if_neg fun here => apart row mem here.1
  rw [untouched]

/-- Archiving proofs does not fail, whatever is stored of them. -/
theorem markSpent_eq (store : Store S) (ys : List S.Point) (meltId : Option String) :
    store.markSpent ys meltId = .ok (store.exchange [] ys meltId) :=
  update_of_new meltId .nil (List.forall_mem_nil _) (List.forall_mem_nil _)

/-- What is archived already is not archived again. -/
theorem markSpent_of_archived {ys : List S.Point}
    (gone : ∀ p ∈ store.proofs, p.row.y ∈ ys → p.archived = true) (meltId : Option String) :
    store.markSpent ys meltId = .ok store := by
  have unchanged : store.proofs.map (fun p => if p.row.y ∈ ys ∧ !p.archived then
      StoredProof.archive meltId p else p) = store.proofs := by
    refine (List.map_congr_left fun p mem => if_neg fun here => ?_).trans (List.map_id _)
    rw [gone p mem here.1] at here
    exact Bool.false_ne_true here.2
  rw [markSpent, update, List.any_nil, if_neg Bool.false_ne_true, List.foldl_nil, foldl_spend,
    modifyAll, unchanged]

/-- An update is about proofs only. -/
theorem exists_of_update {added : List (ProofRow S)} {removed : List S.Point}
    {meltId : Option String} (h : store.update added removed meltId = .ok store') :
    ∃ proofs, store' = { store with proofs := proofs } := by
  have hold (rows : List (ProofRow S)) (store : Store S) :
      ∃ proofs, rows.foldl Store.hold store = { store with proofs := proofs } := by
    induction rows generalizing store with
    | nil => exact ⟨_, rfl⟩
    | cons row rest ih => exact ih (store.hold row)
  unfold update at h
  split at h
  · cases h
  · cases h
    obtain ⟨proofs, held⟩ := hold added store
    rw [foldl_spend, held]
    exact ⟨_, rfl⟩

/-- Freeing proofs is about proofs only. -/
theorem exists_of_unreserve (store : Store S) (ys : List S.Point) :
    ∃ proofs, store.unreserve ys = { store with proofs } := by
  unfold unreserve
  induction ys generalizing store with
  | nil => exact ⟨_, rfl⟩
  | cons y rest ih =>
    rw [List.foldl_cons]
    split
    · exact ih (store.setStatus .unspent y)
    · exact ih store

theorem keysets_of_update {added : List (ProofRow S)} {removed : List S.Point}
    {meltId : Option String} (h : store.update added removed meltId = .ok store') :
    store'.keysets = store.keysets := by
  obtain ⟨proofs, rfl⟩ := exists_of_update h
  rfl

theorem invoices_of_update {added : List (ProofRow S)} {removed : List S.Point}
    {meltId : Option String} (h : store.update added removed meltId = .ok store') :
    store'.invoices = store.invoices := by
  obtain ⟨proofs, rfl⟩ := exists_of_update h
  rfl

theorem held_exchange (added : List (ProofRow S)) (removed : List S.Point)
    (meltId : Option String) :
    (store.exchange added removed meltId).held = store.held.filter (·.y ∉ removed) ++ added := by
  have new : ((added.map fun row => (⟨row, false⟩ : StoredProof S)).filter
      (!·.archived)).map (·.row) = added := by
    rw [List.filter_eq_self.2 (by simp), List.map_map]
    exact List.map_id added
  rw [held, exchange, List.filter_append, List.map_append, new, held, modifyAll]
  congr 1
  induction store.proofs with
  | nil => rfl
  | cons p rest ih =>
    obtain ⟨row, archived⟩ := p
    cases archived with
    | true => simpa using ih
    | false =>
      by_cases gone : row.y ∈ removed
      · simpa [gone, StoredProof.archive] using ih
      · simpa [gone] using ih

theorem Keyed.exchange (keyed : store.Keyed) {added : List (ProofRow S)}
    (distinct : (added.map (·.y)).Nodup) (new : ∀ row ∈ added, row.y ∉ store.proofs.map (·.row.y))
    (removed : List S.Point) (meltId : Option String) :
    (store.exchange added removed meltId).Keyed := by
  rw [Keyed, held_exchange, List.map_append, List.nodup_append]
  refine ⟨keyed.sublist (List.filter_sublist.map _), distinct, ?_⟩
  rintro y old _ fresh rfl
  obtain ⟨row, mem, rfl⟩ := List.mem_map.1 old
  obtain ⟨added, here, same⟩ := List.mem_map.1 fresh
  refine new added here (same ▸ ?_)
  exact List.mem_map.2 ⟨_, mem_held.1 (List.mem_filter.1 mem).1, rfl⟩

theorem mem_archive_exchange {added : List (ProofRow S)} {removed : List S.Point}
    {meltId : Option String} {row : ProofRow S} :
    row ∈ (store.exchange added removed meltId).archive ↔
      row ∈ store.archive ∨
        ∃ old ∈ store.held, old.y ∈ removed ∧ row = { old with status := .spent, meltId } := by
  rw [mem_archive, mem_archive, exchange, modifyAll, List.mem_append]
  constructor
  · rintro (mem | mem)
    · obtain ⟨⟨old, archived⟩, there, changed⟩ := List.mem_map.1 mem
      split at changed
      · rename_i here
        obtain rfl : archived = false := by simpa using here.2
        cases changed
        exact .inr ⟨old, mem_held.2 there, here.1, rfl⟩
      · cases changed
        exact .inl there
    · obtain ⟨_, _, new⟩ := List.mem_map.1 mem
      cases new
  · rintro (mem | ⟨old, mem, gone, rfl⟩)
    · exact .inl (List.mem_map.2 ⟨_, mem, if_neg (by simp)⟩)
    · exact .inl (List.mem_map.2 ⟨_, mem_held.1 mem, if_pos ⟨gone, rfl⟩⟩)

/-! ## Keysets -/

/-- A store to which a keyset has been shown: it takes it in unless it has one under that
identifier. -/
def learn (store : Store S) (k : Keyset S) : Store S :=
  if (store.keyset? k.id).isSome then store
  else { store with keysets := store.keysets ++ [k], keysetIds := store.keysetIds ++ [k.id] }

theorem addKeyset_eq_ok {k : Keyset S} :
    store.addKeyset k = .ok store' ↔ k.verifies = true ∧ store' = store.learn k := by
  unfold addKeyset learn
  cases verified : k.verifies with
  | false => simp
  | true =>
    rw [if_neg (by simp), ← apply_ite Except.ok]
    exact ⟨fun h => ⟨rfl, (Except.ok.inj h).symm⟩, fun ⟨_, same⟩ => congrArg _ same.symm⟩

theorem addKeyset_eq_error {k : Keyset S} {e : Error S} (h : store.addKeyset k = .error e) :
    k.verifies = false := by
  by_contra verified
  rw [addKeyset_eq_ok.2 ⟨by simpa using verified, rfl⟩] at h
  cases h

theorem keyset?_learn (store : Store S) (k : Keyset S) (id : KeysetId) :
    (store.learn k).keyset? id = (store.keyset? id).or (if k.id = id then some k else none) := by
  unfold learn
  split
  · rename_i known
    by_cases same : k.id = id
    · obtain ⟨old, found⟩ := Option.isSome_iff_exists.1 (same ▸ known)
      rw [found, Option.some_or]
    · rw [if_neg same, Option.or_none]
  · unfold keyset?
    rw [List.find?_append]
    simp [List.find?_singleton]

theorem id_of_keyset? {id : KeysetId} {k : Keyset S} (stored : store.keyset? id = some k) :
    k.id = id := by
  simpa using List.find?_some stored

theorem learn_of_stored {id : KeysetId} {k : Keyset S} (stored : store.keyset? id = some k) :
    store.learn k = store := by
  rw [learn, id_of_keyset? stored, stored]
  rfl

/-- What is stored is not replaced. -/
theorem keyset?_learn_of_stored {id : KeysetId} {old : Keyset S}
    (stored : store.keyset? id = some old) (k : Keyset S) :
    (store.learn k).keyset? id = some old := by
  rw [keyset?_learn, stored, Option.some_or]

theorem mem_keysets_learn {k k' : Keyset S} (mem : k' ∈ (store.learn k).keysets) :
    k' ∈ store.keysets ∨ k' = k := by
  unfold learn at mem
  split at mem
  · exact .inl mem
  · simpa using mem

theorem isSome_keyset?_learn (store : Store S) (k : Keyset S) :
    ((store.learn k).keyset? k.id).isSome := by
  rw [keyset?_learn, if_pos rfl]
  simp

/-! ## Invoices -/

theorem invoice?_addInvoice (store : Store S) (invoice : Invoice) (id : String) :
    (store.addInvoice invoice).invoice? id =
      if invoice.id = id then some invoice else store.invoice? id :=
  find?_put invoice store.invoices id

theorem id_of_invoice? {id : String} {invoice : Invoice}
    (stored : store.invoice? id = some invoice) : invoice.id = id := by
  simpa using List.find?_some stored

/-! ## The books -/

/-- The books of a store: all that it has but keysets. -/
def books (store : Store S) : List (StoredProof S) × List Invoice := (store.proofs, store.invoices)

theorem books_learn (store : Store S) (k : Keyset S) : (store.learn k).books = store.books := by
  unfold learn
  split <;> rfl

theorem books_of_addKeyset {keyset : Keyset S} (h : store.addKeyset keyset = .ok store') :
    store'.books = store.books := by
  obtain ⟨-, rfl⟩ := addKeyset_eq_ok.1 h
  exact books_learn store keyset

theorem held_of_books (h : store'.books = store.books) : store'.held = store.held :=
  congrArg (fun b => (b.1.filter (!·.archived)).map (·.row)) h

theorem archive_of_books (h : store'.books = store.books) : store'.archive = store.archive :=
  congrArg (fun b => (b.1.filter (·.archived)).map (·.row)) h

theorem invoices_of_books (h : store'.books = store.books) : store'.invoices = store.invoices :=
  congrArg Prod.snd h

theorem Keyed.of_books (keyed : store.Keyed) (h : store'.books = store.books) : store'.Keyed := by
  rw [Keyed, held_of_books h]
  exact keyed

end Store

end Chaumian
