import Chaumian.Proofs.Scalars
import Chaumian.Proofs.Store
import Chaumian.Wallet.Request

/-!
# The life of a proof in a store

A proof that a store has come to know is held until it is spent, and archived from then on. Two
things make this an invariant of the calls of a store: `Store.Orderly`, which says that each point
has one row and that the archived rows are the spent ones, and `Store.Remembers`, which says that a
later store has all points of an earlier one and its archived rows unchanged. The first is needed
for the second, since a row is only put in place of another one if that one is held.

`orderly_perform`, `remembers_perform` and `mem_archive_perform` are about one call,
`orderly_performAll`, `remembers_performAll` and `mem_archive_performAll` about calls one after the
other, and `life_of_proofs` says what follows for a store that begins empty.
-/

namespace Chaumian

namespace Store

variable {S : Suite} {store store' later : Store S}

/-! ## Rows put in -/

section Put

variable {α κ : Type} [DecidableEq κ] {key : α → κ} {x a : α} {l : List α}

theorem mem_put_self : x ∈ put key x l := by
  induction l with
  | nil => exact List.mem_cons_self
  | cons b rest ih =>
    unfold put
    split
    · exact List.mem_cons_self
    · exact List.mem_cons_of_mem _ ih

theorem mem_put_of_ne (mem : a ∈ l) (ne : key a ≠ key x) : a ∈ put key x l := by
  induction l with
  | nil => cases mem
  | cons b rest ih =>
    unfold put
    split
    · rename_i same
      cases mem with
      | head => exact absurd same ne
      | tail _ mem => exact List.mem_cons_of_mem _ mem
    · cases mem with
      | head => exact List.mem_cons_self
      | tail _ mem => exact List.mem_cons_of_mem _ (ih mem)

/-- An element that takes the place of another one leaves the keys as they are. -/
theorem map_key_put_of_mem (mem : key x ∈ l.map key) : (put key x l).map key = l.map key := by
  induction l with
  | nil => cases mem
  | cons b rest ih =>
    unfold put
    split
    · rename_i same
      simp [same]
    · rename_i other
      rw [List.map_cons, List.mem_cons] at mem
      rw [List.map_cons, List.map_cons, ih (mem.resolve_left (Ne.symm other))]

theorem nodup_map_key_put (distinct : (l.map key).Nodup) : ((put key x l).map key).Nodup := by
  by_cases mem : key x ∈ l.map key
  · rw [map_key_put_of_mem mem]
    exact distinct
  · rw [put_of_notMem mem, List.map_append, List.nodup_append]
    refine ⟨distinct, List.nodup_singleton _, ?_⟩
    intro k old k' new
    rw [List.map_singleton, List.mem_singleton] at new
    rintro rfl
    exact mem (new ▸ old)

end Put

/-! ## One row for each point -/

/-- Each point has one row, and the rows that are archived are those that are spent. -/
structure Orderly (store : Store S) : Prop where
  distinct : (store.proofs.map (·.row.y)).Nodup
  spent : ∀ p ∈ store.proofs, p.archived = true ↔ p.row.status = .spent

theorem Orderly.empty : (empty : Store S).Orderly := ⟨List.nodup_nil, fun _ none => nomatch none⟩

theorem map_ys_perm : ((store.held ++ store.archive).map (·.y)).Perm
    (store.proofs.map (·.row.y)) := by
  unfold held archive
  rw [← List.map_append, List.map_map]
  refine List.Perm.map _ ?_
  exact List.perm_append_comm.trans (List.filter_append_perm _ _)

theorem Orderly.once (h : store.Orderly) :
    ((store.held ++ store.archive).map (·.y)).Nodup :=
  map_ys_perm.nodup_iff.2 h.distinct

theorem Orderly.keyed (h : store.Orderly) : store.Keyed := by
  have once := h.once
  rw [List.map_append] at once
  exact once.of_append_left

theorem Orderly.held_status (h : store.Orderly) {row : ProofRow S} (mem : row ∈ store.held) :
    row.status = .unspent ∨ row.status = .reserved := by
  have free := h.spent _ (mem_held.1 mem)
  cases status : row.status with
  | unspent => exact .inl rfl
  | reserved => exact .inr rfl
  | spent => cases free.2 status

theorem Orderly.archive_status (h : store.Orderly) {row : ProofRow S} (mem : row ∈ store.archive) :
    row.status = .spent :=
  (h.spent _ (mem_archive.1 mem)).1 rfl

theorem Orderly.hold (h : store.Orderly) {row : ProofRow S} (free : row.status ≠ .spent) :
    (store.hold row).Orderly := by
  refine ⟨nodup_map_key_put h.distinct, ?_⟩
  intro p mem
  obtain rfl | mem := mem_of_mem_put mem
  · exact ⟨fun archived => (nomatch archived), fun spent => absurd spent free⟩
  · exact h.spent p mem

theorem Orderly.modifyAll (h : store.Orderly) {f : StoredProof S → StoredProof S}
    (keeps : ∀ p, (f p).row.y = p.row.y)
    (fits : ∀ p, p.archived = false → p.row.status ≠ .spent →
      ((f p).archived = true ↔ (f p).row.status = .spent)) (ys : List S.Point) :
    (store.modifyAll f ys).Orderly := by
  refine ⟨?_, ?_⟩
  · rw [map_ys_modifyAll keeps]
    exact h.distinct
  · intro p mem
    obtain ⟨old, there, rfl⟩ := List.mem_map.1 mem
    have before := h.spent old there
    split
    · rename_i here
      have free : old.archived = false := by simpa using here.2
      refine fits old free fun spent => ?_
      rw [before.2 spent] at free
      cases free
    · exact before

/-! ## What is not forgotten -/

/-- A later store has every point of an earlier one, and its archived rows as they were. -/
def Remembers (later store : Store S) : Prop :=
  ∀ p ∈ store.proofs, ∃ q ∈ later.proofs, q.row.y = p.row.y ∧ (p.archived = true → q = p)

theorem Remembers.refl (store : Store S) : store.Remembers store :=
  fun p mem => ⟨p, mem, rfl, fun _ => rfl⟩

theorem Remembers.trans {between : Store S} (second : later.Remembers between)
    (first : between.Remembers store) : later.Remembers store := by
  intro p mem
  obtain ⟨q, there, samePoint, same⟩ := first p mem
  obtain ⟨r, there, samePoint', same'⟩ := second q there
  refine ⟨r, there, samePoint'.trans samePoint, ?_⟩
  intro archived
  obtain rfl := same archived
  exact same' archived

theorem Remembers.archive (h : later.Remembers store) {row : ProofRow S}
    (mem : row ∈ store.archive) : row ∈ later.archive := by
  obtain ⟨q, there, -, same⟩ := h _ (mem_archive.1 mem)
  obtain rfl := same rfl
  exact mem_archive.2 there

theorem Remembers.points (h : later.Remembers store) {y : S.Point}
    (mem : y ∈ (store.held ++ store.archive).map (·.y)) :
    y ∈ (later.held ++ later.archive).map (·.y) := by
  rw [map_ys_perm.mem_iff] at mem ⊢
  obtain ⟨p, there, rfl⟩ := List.mem_map.1 mem
  obtain ⟨q, there, same, -⟩ := h p there
  exact List.mem_map.2 ⟨q, there, same⟩

theorem remembers_hold {row : ProofRow S} (new : store.isArchived row.y = false) :
    (store.hold row).Remembers store := by
  intro p mem
  by_cases same : p.row.y = row.y
  · refine ⟨⟨row, false⟩, mem_put_self, same.symm, ?_⟩
    intro archived
    -- Nothing archived has the point of a row that may be put in.
    obtain ⟨old, _⟩ := p
    obtain rfl := archived
    have there : store.isArchived row.y = true := isArchived_iff.2 ⟨old, mem_archive.2 mem, same⟩
    rw [new] at there
    cases there
  · exact ⟨p, mem_put_of_ne mem same, rfl, fun _ => rfl⟩

theorem remembers_modifyAll {f : StoredProof S → StoredProof S}
    (keeps : ∀ p, (f p).row.y = p.row.y) (ys : List S.Point) :
    (store.modifyAll f ys).Remembers store := by
  intro p mem
  refine ⟨_, List.mem_map_of_mem mem, ?_, ?_⟩
  · split
    · exact keeps p
    · rfl
  · intro archived
    rw [archived]
    exact if_neg (by simp)

/-! ## Rows put in one after the other -/

theorem mem_archive_of_hold {row old : ProofRow S} (mem : old ∈ (store.hold row).archive) :
    old ∈ store.archive := by
  obtain new | mem := mem_of_mem_put (mem_archive.1 mem)
  · cases new
  · exact mem_archive.2 mem

theorem mem_archive_of_holdAll {rows : List (ProofRow S)} {old : ProofRow S}
    (mem : old ∈ (rows.foldl Store.hold store).archive) : old ∈ store.archive := by
  induction rows generalizing store with
  | nil => exact mem
  | cons row rest ih => exact mem_archive_of_hold (ih mem)

theorem isArchived_hold {row : ProofRow S} {y : S.Point} (new : store.isArchived y = false) :
    (store.hold row).isArchived y = false := by
  rw [Bool.eq_false_iff] at new ⊢
  intro archived
  obtain ⟨old, mem, same⟩ := isArchived_iff.1 archived
  exact new (isArchived_iff.2 ⟨old, mem_archive_of_hold mem, same⟩)

theorem Orderly.holdAll (h : store.Orderly) {rows : List (ProofRow S)}
    (free : ∀ row ∈ rows, row.status ≠ .spent) : (rows.foldl Store.hold store).Orderly := by
  induction rows generalizing store with
  | nil => exact h
  | cons row rest ih =>
    rw [List.forall_mem_cons] at free
    exact ih (h.hold free.1) free.2

theorem remembers_holdAll {rows : List (ProofRow S)}
    (new : ∀ row ∈ rows, store.isArchived row.y = false) :
    (rows.foldl Store.hold store).Remembers store := by
  induction rows generalizing store with
  | nil => exact .refl store
  | cons row rest ih =>
    rw [List.forall_mem_cons] at new
    have others : ∀ other ∈ rest, (store.hold row).isArchived other.y = false :=
      fun other mem => isArchived_hold (new.2 other mem)
    exact (ih others).trans (remembers_hold new.1)

theorem mem_points_holdAll {rows : List (ProofRow S)}
    (new : ∀ row ∈ rows, store.isArchived row.y = false) {row : ProofRow S} (mem : row ∈ rows) :
    row.y ∈ (rows.foldl Store.hold store).proofs.map (·.row.y) := by
  induction rows generalizing store with
  | nil => cases mem
  | cons first rest ih =>
    rw [List.forall_mem_cons] at new
    have others : ∀ other ∈ rest, (store.hold first).isArchived other.y = false :=
      fun other mem => isArchived_hold (new.2 other mem)
    cases mem with
    | head =>
      obtain ⟨q, there, same, -⟩ := remembers_holdAll others ⟨row, false⟩ mem_put_self
      exact List.mem_map.2 ⟨q, there, same⟩
    | tail _ mem => exact ih others mem

/-! ## When an operation is done -/

theorem reserve_succeeds_iff (h : store.Keyed) {ys : List S.Point} :
    (∃ changed, store.reserve ys = .ok changed) ↔
      ∀ y ∈ ys, ∃ row ∈ store.held, row.y = y ∧ row.status = .unspent := by
  constructor
  · rintro ⟨changed, done⟩ y mem
    exact h.isHeldIn_iff.1 ((reserve_eq_ok done).1 y mem)
  · intro free
    have none : ys.find? (!store.isHeldIn .unspent ·) = none := by
      rw [List.find?_eq_none]
      intro y mem
      rw [h.isHeldIn_iff.2 (free y mem)]
      decide
    exact ⟨_, by rw [reserve, none]⟩

theorem update_succeeds_iff {added : List (ProofRow S)} {removed : List S.Point}
    {meltId : Option String} :
    (∃ changed, store.update added removed meltId = .ok changed) ↔
      ∀ row ∈ added, row.y ∉ store.archive.map (·.y) := by
  have each (y : S.Point) : store.isArchived y = true ↔ y ∈ store.archive.map (·.y) := by
    rw [isArchived_iff, List.mem_map]
  unfold update
  split
  · rename_i archived
    obtain ⟨row, mem, there⟩ := List.any_eq_true.1 archived
    constructor
    · rintro ⟨_, done⟩
      cases done
    · exact fun new => absurd ((each row.y).1 there) (new row mem)
  · rename_i new
    refine ⟨fun _ row mem there => new ?_, fun _ => ⟨_, rfl⟩⟩
    exact List.any_eq_true.2 ⟨row, mem, (each row.y).2 there⟩

end Store

namespace Wallet.StoreCall

open Store (Orderly Remembers)

variable {S : Suite} {store : Store S} {call : StoreCall S} {calls first rest : List (StoreCall S)}

/-- Whether the rows that a call adds are unspent or reserved. -/
def Proper : StoreCall S → Prop
  | update added _ _ => ∀ row ∈ added, row.status = .unspent ∨ row.status = .reserved
  | _ => True

/-- Whether a call adds rows and archives others, for a payment or for none. -/
inductive Updates : StoreCall S → List (ProofRow S) → List S.Point → Option String → Prop
  | update (added : List (ProofRow S)) (removed : List S.Point) (meltId : Option String) :
      Updates (.update added removed meltId) added removed meltId
  | markSpent (removed : List S.Point) (meltId : Option String) :
      Updates (.markSpent removed meltId) [] removed meltId

/-- A call changes the proofs and nothing else, or it shows the store a keyset, or it puts in an
invoice. -/
theorem perform_parts (call : StoreCall S) (store : Store S) :
    (∃ proofs, (call.perform store).2 = { store with proofs }) ∨
      (∃ k : Keyset S, k.verifies = true ∧ (call.perform store).2 = store.learn k) ∨
      ∃ invoice, call = .addInvoice invoice ∧
        (call.perform store).2 = store.addInvoice invoice := by
  have committed {result : Except (Store.Error S) (Store S)}
      (proofs : ∀ changed, result = .ok changed → ∃ proofs, changed = { store with proofs }) :
      ∃ proofs, (commit store result).2 = { store with proofs } := by
    cases result with
    | error e => exact ⟨_, rfl⟩
    | ok changed => exact proofs changed rfl
  cases call with
  | keyset id | invoice id | invoices | heldIn states | archive => exact .inl ⟨_, rfl⟩
  | addInvoice invoice => exact .inr (.inr ⟨invoice, rfl, rfl⟩)
  | addKeyset keyset =>
    rw [perform]
    cases added : store.addKeyset keyset with
    | error e => exact .inl ⟨_, rfl⟩
    | ok changed =>
      obtain ⟨verified, rfl⟩ := Store.addKeyset_eq_ok.1 added
      exact .inr (.inl ⟨keyset, verified, rfl⟩)
  | update added removed meltId => exact .inl (committed fun _ => Store.exists_of_update)
  | markSpent removed meltId => exact .inl (committed fun _ => Store.exists_of_update)
  | reserve ys =>
    refine .inl (committed fun changed done => ?_)
    obtain ⟨-, rfl⟩ := Store.reserve_eq_ok done
    exact ⟨_, rfl⟩
  | unreserve ys => exact .inl (store.exists_of_unreserve ys)

/-- What a call does to the proofs of a store: nothing; it adds rows none of which is archived, and
archives others; or it sets rows that are held aside or free. -/
theorem perform_cases (h : store.Keyed) (call : StoreCall S) :
    (call.perform store).2.proofs = store.proofs ∨
      (∃ added removed meltId, call.Updates added removed meltId ∧
        (∀ row ∈ added, store.isArchived row.y = false) ∧
        (call.perform store).2 =
          (added.foldl Store.hold store).modifyAll (Store.StoredProof.archive meltId) removed) ∨
      ∃ f ys, (f = StoredProof.withStatus .reserved ∨ f = Store.freed) ∧
        (call.perform store).2 = store.modifyAll f ys := by
  have unarchived {added : List (ProofRow S)} (new : ¬ added.any (store.isArchived ·.y)) :
      ∀ row ∈ added, store.isArchived row.y = false := by
    intro row mem
    rw [Bool.eq_false_iff]
    exact fun archived => new (List.any_eq_true.2 ⟨row, mem, archived⟩)
  cases call with
  | keyset id | invoice id | invoices | heldIn states | archive | addInvoice invoice =>
    exact .inl rfl
  | addKeyset keyset =>
    refine .inl ?_
    rw [perform]
    cases added : store.addKeyset keyset with
    | error e => rfl
    | ok changed => exact congrArg Prod.fst (Store.books_of_addKeyset added)
  | update added removed meltId =>
    rw [perform]
    cases done : store.update added removed meltId with
    | error e => exact .inl rfl
    | ok changed =>
      unfold Store.update at done
      split at done
      · cases done
      · rename_i new
        cases done
        refine .inr (.inl ⟨added, removed, meltId, .update .., unarchived new, ?_⟩)
        exact Store.foldl_spend ..
  | markSpent removed meltId =>
    refine .inr (.inl ⟨[], removed, meltId, .markSpent .., fun _ none => (nomatch none), ?_⟩)
    exact Store.foldl_spend ..
  | reserve ys =>
    rw [perform]
    cases done : store.reserve ys with
    | error e => exact .inl rfl
    | ok changed =>
      obtain ⟨-, rfl⟩ := Store.reserve_eq_ok done
      exact .inr (.inr ⟨_, ys, .inl rfl, rfl⟩)
  | unreserve ys => exact .inr (.inr ⟨_, ys, .inr rfl, Store.unreserve_eq h ys⟩)

/-- The rows that a proper call adds are not spent. -/
theorem Proper.of_updates (proper : call.Proper) {added : List (ProofRow S)}
    {removed : List S.Point} {meltId : Option String} (h : call.Updates added removed meltId) :
    ∀ row ∈ added, row.status ≠ .spent := by
  cases h with
  | markSpent => exact fun _ none => nomatch none
  | update =>
    intro row mem
    obtain status | status := proper row mem <;> rw [status] <;> decide

theorem orderly_perform (h : store.Orderly) (proper : call.Proper) :
    (call.perform store).2.Orderly := by
  obtain same | ⟨added, removed, meltId, updates, -, done⟩ | ⟨f, ys, changes, done⟩ :=
    perform_cases h.keyed call
  · constructor
    · rw [same]
      exact h.distinct
    · rw [same]
      exact h.spent
  · rw [done]
    refine (h.holdAll (proper.of_updates updates)).modifyAll
      (f := Store.StoredProof.archive meltId) (fun _ => rfl) ?_ removed
    exact fun p _ _ => ⟨fun _ => rfl, fun _ => rfl⟩
  · rw [done]
    obtain rfl | rfl := changes
    · refine h.modifyAll (f := StoredProof.withStatus .reserved) (fun _ => rfl) ?_ ys
      intro p held _
      exact ⟨fun archived => (nomatch held.symm.trans archived), fun spent => (nomatch spent)⟩
    · refine h.modifyAll Store.freed_y ?_ ys
      intro p held free
      rw [Store.freed_archived, held]
      refine ⟨fun archived => (nomatch archived), fun spent => ?_⟩
      unfold Store.freed at spent
      split at spent
      · cases spent
      · exact absurd spent free

theorem remembers_perform (h : store.Orderly) (call : StoreCall S) :
    (call.perform store).2.Remembers store := by
  obtain same | ⟨added, removed, meltId, -, new, done⟩ | ⟨f, ys, changes, done⟩ :=
    perform_cases h.keyed call
  · intro p mem
    rw [← same] at mem
    exact ⟨p, mem, rfl, fun _ => rfl⟩
  · rw [done]
    have spent : ((added.foldl Store.hold store).modifyAll (Store.StoredProof.archive meltId)
        removed).Remembers (added.foldl Store.hold store) :=
      Store.remembers_modifyAll (f := Store.StoredProof.archive meltId) (fun _ => rfl) removed
    exact spent.trans (Store.remembers_holdAll new)
  · rw [done]
    obtain rfl | rfl := changes
    · exact Store.remembers_modifyAll (f := StoredProof.withStatus .reserved) (fun _ => rfl) ys
    · exact Store.remembers_modifyAll Store.freed_y ys

/-- A row that a call archives was held, once the rows that the call adds were. -/
theorem mem_archive_perform (h : store.Orderly) {row : ProofRow S}
    (mem : row ∈ (call.perform store).2.archive) :
    row ∈ store.archive ∨ ∃ added removed meltId, call.Updates added removed meltId ∧
      ∃ old ∈ (added.foldl Store.hold store).held,
        old.y ∈ removed ∧ row = { old with status := .spent, meltId } := by
  obtain same | ⟨added, removed, meltId, updates, -, done⟩ | ⟨f, ys, changes, done⟩ :=
    perform_cases h.keyed call
  · rw [Store.mem_archive, same] at mem
    exact .inl (Store.mem_archive.2 mem)
  · have exchanged : (call.perform store).2 =
        (added.foldl Store.hold store).exchange [] removed meltId := by
      rw [done, Store.exchange, List.map_nil, List.append_nil]
      rfl
    rw [exchanged, Store.mem_archive_exchange] at mem
    obtain mem | archived := mem
    · exact .inl (Store.mem_archive_of_holdAll mem)
    · exact .inr ⟨added, removed, meltId, updates, archived⟩
  · have stays (p : StoredProof S) : (f p).archived = p.archived := by
      obtain rfl | rfl := changes
      · rfl
      · exact Store.freed_archived p
    rw [done, Store.mem_archive] at mem
    obtain ⟨old, there, changed⟩ := List.mem_map.1 mem
    split at changed
    · rename_i here
      have archived : (f old).archived = true := by rw [changed]
      rw [stays] at archived
      simp [archived] at here
    · rw [changed] at there
      exact .inl (Store.mem_archive.2 there)

/-! ## Calls one after the other -/

/-- A store after calls, whatever becomes of each of them. -/
def performAll (calls : List (StoreCall S)) (store : Store S) : Store S :=
  calls.foldl (fun store call => (call.perform store).2) store

@[simp] theorem performAll_append :
    performAll (first ++ rest) store = performAll rest (performAll first store) :=
  List.foldl_append

theorem orderly_performAll (h : store.Orderly) (proper : ∀ call ∈ calls, call.Proper) :
    (performAll calls store).Orderly := by
  induction calls generalizing store with
  | nil => exact h
  | cons call rest ih =>
    rw [List.forall_mem_cons] at proper
    exact ih (orderly_perform h proper.1) proper.2

theorem remembers_performAll (h : store.Orderly) (proper : ∀ call ∈ calls, call.Proper) :
    (performAll calls store).Remembers store := by
  induction calls generalizing store with
  | nil => exact Remembers.refl store
  | cons call rest ih =>
    rw [List.forall_mem_cons] at proper
    exact (ih (orderly_perform h proper.1) proper.2).trans (remembers_perform h call)

/-- Where the archived rows come from. -/
theorem mem_archive_performAll (h : store.Orderly) (proper : ∀ call ∈ calls, call.Proper)
    {row : ProofRow S} (mem : row ∈ (performAll calls store).archive) :
    row ∈ store.archive ∨ ∃ first call rest added removed meltId,
      calls = first ++ call :: rest ∧ call.Updates added removed meltId ∧
      ∃ old ∈ (added.foldl Store.hold (performAll first store)).held,
        old.y ∈ removed ∧ row = { old with status := .spent, meltId } := by
  induction calls generalizing store with
  | nil => exact .inl mem
  | cons call rest ih =>
    rw [List.forall_mem_cons] at proper
    -- Either the first call has archived the row, or one of those after it.
    obtain mem | ⟨first, later, others, added, removed, meltId, rfl, came⟩ :=
      ih (orderly_perform h proper.1) proper.2 mem
    · obtain mem | ⟨added, removed, meltId, came⟩ := mem_archive_perform h mem
      · exact .inl mem
      · exact .inr ⟨[], call, rest, added, removed, meltId, rfl, came⟩
    · exact .inr ⟨call :: first, later, others, added, removed, meltId, rfl, came⟩

/-- A call that fails has changed nothing. -/
theorem perform_of_error {e : Store.Error S} (failed : (call.perform store).1 = .error e) :
    (call.perform store).2 = store := by
  have commit {changed : Except (Store.Error S) (Store S)}
      (failed : (commit store changed).1 = .error e) : (commit store changed).2 = store := by
    cases changed with
    | error _ => rfl
    | ok _ => cases failed
  cases call with
  | keyset id | invoice id | invoices | heldIn states | archive | addInvoice invoice
  | unreserve ys => cases failed
  | addKeyset keyset | update added removed meltId | reserve ys | markSpent ys meltId =>
    exact commit failed

theorem perform_succeeds_iff {changed : Except (Store.Error S) (Store S)} :
    (commit store changed).1 = .ok () ↔ ∃ after, changed = .ok after := by
  cases changed with
  | error e => exact ⟨fun done => (nomatch done), fun ⟨_, done⟩ => (nomatch done)⟩
  | ok after => exact ⟨fun _ => ⟨after, rfl⟩, fun _ => rfl⟩

/-- The points of the rows that a call has added are known afterwards. -/
theorem mem_points_perform {added : List (ProofRow S)} {removed : List S.Point}
    {meltId : Option String}
    (done : ((update added removed meltId).perform store).1 = .ok ()) {row : ProofRow S}
    (mem : row ∈ added) :
    row.y ∈ ((update added removed meltId).perform store).2.proofs.map (·.row.y) := by
  have new := Store.update_succeeds_iff.1 (perform_succeeds_iff.1 done)
  have unarchived : ∀ row ∈ added, store.isArchived row.y = false := by
    intro row mem
    rw [Bool.eq_false_iff]
    intro archived
    obtain ⟨old, there, same⟩ := Store.isArchived_iff.1 archived
    exact new row mem (List.mem_map.2 ⟨old, there, same⟩)
  obtain ⟨after, updated⟩ := perform_succeeds_iff.1 done
  rw [perform, updated]
  unfold Store.update at updated
  split at updated
  · cases updated
  · cases updated
    rw [Store.foldl_spend]
    change row.y ∈ (Store.modifyAll _ _ _).proofs.map (·.row.y)
    rw [Store.map_ys_modifyAll (f := Store.StoredProof.archive meltId) fun _ => rfl]
    exact Store.mem_points_holdAll unarchived mem

/-- Whatever is called of a store that begins empty, if only unspent and reserved rows are added.
A point is held or archived and never both, and once; held rows are unspent or reserved and archived
rows are spent; what was archived at some moment is archived still, just as it was then, and what
was added by a call that succeeded is still there; each archived row is the one that was held under
its point when it was archived, but for its state and its payment. The next call succeeds in adding
rows if none of them is archived and in reserving if all points are held unspent, and only then;
and if it fails it changes nothing. -/
theorem life_of_proofs (calls : List (StoreCall S)) (proper : ∀ call ∈ calls, call.Proper) :
    let store := performAll calls .empty
    ((store.held ++ store.archive).map (·.y)).Nodup ∧
      (∀ row ∈ store.held, row.status = .unspent ∨ row.status = .reserved) ∧
      (∀ row ∈ store.archive, row.status = .spent) ∧
      (∀ first rest, calls = first ++ rest →
        ∀ row ∈ (performAll first .empty).archive, row ∈ store.archive) ∧
      (∀ first added removed meltId rest, calls = first ++ update added removed meltId :: rest →
        ((update added removed meltId).perform (performAll first .empty)).1 = .ok () →
        ∀ row ∈ added, row.y ∈ (store.held ++ store.archive).map (·.y)) ∧
      (∀ row ∈ store.archive, ∃ first call rest added removed meltId,
        calls = first ++ call :: rest ∧ call.Updates added removed meltId ∧
        ∃ old ∈ (added.foldl Store.hold (performAll first .empty)).held,
          old.y ∈ removed ∧ row = { old with status := .spent, meltId }) ∧
      (∀ added removed meltId, ((update added removed meltId).perform store).1 = .ok () ↔
        ∀ row ∈ added, row.y ∉ store.archive.map (·.y)) ∧
      (∀ ys, ((reserve ys).perform store).1 = .ok () ↔
        ∀ y ∈ ys, ∃ row ∈ store.held, row.y = y ∧ row.status = .unspent) ∧
      ∀ (call : StoreCall S) e, (call.perform store).1 = .error e →
        (call.perform store).2 = store := by
  intro store
  have h : store.Orderly := orderly_performAll .empty proper
  -- At any moment in the past the store was in order, and nothing has been forgotten since.
  have past {first rest : List (StoreCall S)} (split : calls = first ++ rest) :
      (performAll first (.empty : Store S)).Orderly ∧
        store.Remembers (performAll first .empty) := by
    subst split
    rw [List.forall_mem_append] at proper
    have early := orderly_performAll .empty proper.1
    have same : store = performAll rest (performAll first .empty) := performAll_append
    rw [same]
    exact ⟨early, remembers_performAll early proper.2⟩
  refine ⟨h.once, fun row => h.held_status, fun row => h.archive_status, ?_, ?_, ?_, ?_, ?_, ?_⟩
  · intro first rest split row archived
    exact (past split).2.archive archived
  · intro first added removed meltId rest split done row mem
    have split : calls = (first ++ [update added removed meltId]) ++ rest := by simp [split]
    refine (past split).2.points ?_
    rw [Store.map_ys_perm.mem_iff, performAll_append]
    exact mem_points_perform done mem
  · intro row archived
    exact (mem_archive_performAll .empty proper archived).resolve_left fun none => nomatch none
  · intro added removed meltId
    exact perform_succeeds_iff.trans Store.update_succeeds_iff
  · intro ys
    exact perform_succeeds_iff.trans (Store.reserve_succeeds_iff h.keyed)
  · intro call e failed
    exact perform_of_error failed

end Wallet.StoreCall

namespace Sample

open Wallet (StoreCall)

/-- A row of a proof with the secret of a letter. -/
def row (amount n : Nat) (status : ProofStatus) : ProofRow suite :=
  ⟨proof amount n, point n, status, none, none⟩

/-- Three proofs are added, the last of them twice and given away by the same call; of the others
one is reserved, freed and spent. In between there are calls that fail. -/
def storeCalls : List (StoreCall suite) :=
  [.update [row 1 0 .unspent, row 2 1 .unspent, row 4 2 .reserved, row 8 2 .unspent]
      [point 2, point 2, point 7] none,
    .reserve [point 0, point 1, point 0],
    .reserve [point 1],
    .unreserve [point 1, point 2, point 7],
    .markSpent [point 1] (some "payment"),
    .update [row 1 1 .unspent] [] none]

theorem life_of_storeCalls :
    let store := StoreCall.performAll storeCalls .empty
    store.held = [row 1 0 .reserved] ∧
      store.archive = [{ row 2 1 .spent with meltId := some "payment" }, row 8 2 .spent] ∧
      ((StoreCall.reserve [point 0]).perform store).1 ≠ .ok () ∧
      ((store.held ++ store.archive).map (·.y)).Nodup := by
  have proper : ∀ call ∈ storeCalls, call.Proper := by
    intro call mem
    simp only [storeCalls, List.mem_cons, List.not_mem_nil, or_false] at mem
    obtain rfl | rfl | rfl | rfl | rfl | rfl := mem
    · intro row mem
      simp only [List.mem_cons, List.not_mem_nil, or_false] at mem
      obtain rfl | rfl | rfl | rfl := mem <;> simp [row]
    · trivial
    · trivial
    · trivial
    · trivial
    · intro row mem
      simp only [List.mem_singleton] at mem
      exact mem ▸ .inl rfl
  have held : (StoreCall.performAll storeCalls .empty).held = [row 1 0 .reserved] := by
    decide +kernel
  obtain ⟨once, -, -, -, -, -, -, reserves, -⟩ := StoreCall.life_of_proofs storeCalls proper
  refine ⟨held, by decide +kernel, ?_, once⟩
  rw [Ne, reserves, held]
  intro free
  obtain ⟨_, mem, -, status⟩ := free _ (List.mem_singleton.2 rfl)
  obtain rfl := List.mem_singleton.1 mem
  cases status

end Sample

end Chaumian
