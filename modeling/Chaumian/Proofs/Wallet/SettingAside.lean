import Chaumian.Proofs.Lifecycle
import Chaumian.Proofs.Wallet.Conduct

/-!
# Sends that fall between each other

Any number of wallets share one store, and each has any number of sends under way, all of which set
aside what they hand out. What a send was given to choose from may long have been out of date when
it begins. Still no two of them hand out the same proof, no proof is exchanged twice, and when all
have ended each proof that was free before is free again, or was exchanged, or has been handed out.

`Meets.effect` says once what a permitted request does to the store and to a stage, and `Consistent`
is what all operations keep: secrets are drawn once, and what an operation has set aside is not free
and not set aside for another one. `Reserving` says more of operations that spend only what they have
set aside. That a proof which is set aside for an operation is still reserved for it is what a
release by an operation that fails could break, and what a write by another one could break; it is
kept because either is about proofs of its own.
-/

namespace Chaumian

namespace Store

variable {S : Suite} {store store' : Store S} {y : S.Point}

/-! ## Rows that are not free -/

/-- A store has a row under a point which is not free to be spent. -/
def Taken (store : Store S) (y : S.Point) : Prop :=
  ∃ p ∈ store.proofs, p.row.y = y ∧ p.row.status ≠ .unspent

theorem Taken.mem_points (taken : store.Taken y) : y ∈ store.proofs.map (·.row.y) := by
  obtain ⟨p, mem, same, -⟩ := taken
  exact List.mem_map.2 ⟨p, mem, same⟩

theorem Taken.not_free (taken : store.Taken y) (orderly : store.Orderly) :
    store.isHeldIn .unspent y = false := by
  obtain ⟨p, mem, same, spent⟩ := taken
  rw [Bool.eq_false_iff]
  intro free
  obtain ⟨row, held, same', status⟩ := orderly.keyed.isHeldIn_iff.1 free
  have one : p = ⟨row, false⟩ := List.inj_on_of_nodup_map orderly.distinct mem (mem_held.1 held)
    (same.trans same'.symm)
  rw [one] at spent
  exact spent status

theorem Taken.modifyAll {f : StoredProof S → StoredProof S} {ys : List S.Point}
    (keeps : ∀ p, (f p).row.y = p.row.y)
    (still : y ∈ ys → ∀ p, p.row.status ≠ .unspent → (f p).row.status ≠ .unspent)
    (taken : store.Taken y) : (store.modifyAll f ys).Taken y := by
  obtain ⟨p, mem, rfl, spent⟩ := taken
  refine ⟨_, List.mem_map_of_mem mem, ?_, ?_⟩
  · split
    · exact keeps p
    · rfl
  · split
    · rename_i here
      exact still here.1 p spent
    · exact spent

theorem Taken.of_reserve {ys : List S.Point} (orderly : store.Orderly)
    (done : store.reserve ys = .ok store') (mem : y ∈ ys) : store'.Taken y := by
  obtain ⟨free, rfl⟩ := reserve_eq_ok done
  obtain ⟨row, held, rfl, -⟩ := orderly.keyed.isHeldIn_iff.1 (free y mem)
  refine ⟨_, List.mem_map_of_mem (mem_held.1 held), ?_, ?_⟩
  · split <;> rfl
  · rw [if_pos ⟨mem, rfl⟩]
    exact fun status => nomatch status

/-- A store with more rows behind those there are. -/
def withRows (store : Store S) (rows : List (ProofRow S)) : Store S :=
  { store with proofs := store.proofs ++ rows.map (⟨·, false⟩) }

theorem map_ys_withRows (store : Store S) (rows : List (ProofRow S)) :
    (store.withRows rows).proofs.map (·.row.y) = store.proofs.map (·.row.y) ++ rows.map (·.y) := by
  rw [withRows, List.map_append, List.map_map]
  rfl

theorem Taken.withRows (taken : store.Taken y) (rows : List (ProofRow S)) :
    (store.withRows rows).Taken y := by
  obtain ⟨p, mem, rest⟩ := taken
  exact ⟨p, List.mem_append_left _ mem, rest⟩

theorem taken_of_mem_rows {rows : List (ProofRow S)} {row : ProofRow S} (mem : row ∈ rows)
    (status : row.status ≠ .unspent) : (store.withRows rows).Taken row.y :=
  ⟨⟨row, false⟩, List.mem_append_right _ (List.mem_map_of_mem mem), rfl, status⟩

/-- What is not free is not free when it is archived either. -/
theorem Taken.archive (taken : store.Taken y) (meltId : Option String) (ys : List S.Point) :
    (store.modifyAll (StoredProof.archive meltId) ys).Taken y :=
  taken.modifyAll (f := StoredProof.archive meltId) (fun _ => rfl)
    fun _ _ _ status => nomatch status

/-- Rows of new points are added behind the others before some are archived. -/
theorem eq_of_update {added : List (ProofRow S)} {removed : List S.Point} {meltId : Option String}
    (distinct : (added.map (·.y)).Nodup)
    (new : ∀ row ∈ added, row.y ∉ store.proofs.map (·.row.y))
    (done : store.update added removed meltId = .ok store') :
    store' = (store.withRows added).modifyAll (StoredProof.archive meltId) removed := by
  unfold update at done
  split at done
  · cases done
  · cases done
    rw [foldl_spend, foldl_hold distinct new, withRows]

end Store

namespace Wallet

variable {S : Suite} {ι ω : Type}

/-! ## What a request does -/

/-- What becomes of what is shared, and of the stage of the operation that makes a request, as far
as others could notice it in the store. -/
inductive Effect [DecidableEq ι] (own : Option (List S.Point)) (i : ι) (g s : Stage S)
    (x y : Shared S ι ω) : Prop
  | nothing (proofs : y.store.proofs = x.store.proofs) (drawn : y.drawn = x.drawn)
      (exchanged : y.exchanged = x.exchanged) (aside : s.aside = g.aside)
      (stored : s.stored = g.stored) (secrets : s.drawn = g.drawn)
  | reserve (done : x.store.reserve s.aside = .ok y.store) (drawn : y.drawn = x.drawn)
      (exchanged : y.exchanged = x.exchanged) (none : g.aside = [])
      (stored : s.stored = g.stored) (secrets : s.drawn = g.drawn)
  | free (done : y.store = x.store.unreserve g.aside) (drawn : y.drawn = x.drawn)
      (exchanged : y.exchanged = x.exchanged) (none : s.aside = []) (unclaimed : g.claims = [])
      (stored : s.stored = g.stored) (secrets : s.drawn = g.drawn)
  | update (added : List (ProofRow S)) (meltId : Option String)
      (done : x.store.update added (own.getD g.aside) meltId = .ok y.store)
      (drawn : y.drawn = x.drawn) (exchanged : y.exchanged = x.exchanged ++ [(i, own.getD g.aside)])
      (aside : s.aside = (added.filter (·.status = .reserved)).map (·.y))
      (unstored : g.stored = false) (stored : s.stored = true) (secrets : s.drawn = g.drawn)
      (points : (added.map (·.y)).Sublist (pointsOf S g.drawn))
  | draw (secret : Secret) (new : x.IsNew secret) (store : y.store = x.store)
      (drawn : y.drawn = Function.update x.drawn i (x.drawn i ++ [secret]))
      (exchanged : y.exchanged = x.exchanged) (aside : s.aside = g.aside)
      (stored : s.stored = g.stored) (secrets : s.drawn = g.drawn ++ [secret])

theorem filterMap_exchange?_append {journal : List (ι × StoreCall S)} {entry : ι × StoreCall S}
    (other : Shared.exchange? entry = none) :
    (journal ++ [entry]).filterMap Shared.exchange? = journal.filterMap Shared.exchange? := by
  rw [List.filterMap_append, List.filterMap_cons_none other, List.filterMap_nil, List.append_nil]

section

variable [DecidableEq ι] [DecidableEq ω] {wallet : ι → ω} {own : Option (List S.Point)}
  {x y : Shared S ι ω} {i : ι}

theorem Meets.effect {g : Stage S} {request : Request S} {answer : request.Answer}
    (permitted : g.Permits own request) (met : Meets wallet x i request answer y) :
    Effect own i g (g.after request answer) x y := by
  cases met with
  | store call =>
    cases call with
    | keyset id | invoice id | invoices | heldIn states | archive | addInvoice invoice =>
      exact .nothing rfl rfl (filterMap_exchange?_append rfl) rfl rfl rfl
    | addKeyset keyset =>
      rw [StoreCall.perform]
      cases added : x.store.addKeyset keyset with
      | error e => exact .nothing rfl rfl rfl rfl rfl rfl
      | ok store =>
        have same := congrArg Prod.fst (Store.books_of_addKeyset added)
        exact .nothing same rfl (filterMap_exchange?_append rfl) rfl rfl rfl
    | update added removed meltId =>
      obtain ⟨unstored, rfl, -, points⟩ := permitted
      rw [StoreCall.perform]
      cases done : x.store.update added (own.getD g.aside) meltId with
      | error e => exact .nothing rfl rfl rfl rfl rfl rfl
      | ok store =>
        exact .update added meltId done rfl (List.filterMap_append ..) rfl unstored rfl rfl points
    | reserve ys =>
      obtain ⟨none, -⟩ := permitted
      rw [StoreCall.perform]
      cases done : x.store.reserve ys with
      | error e => exact .nothing rfl rfl rfl rfl rfl rfl
      | ok store => exact .reserve done rfl (filterMap_exchange?_append rfl) none rfl rfl
    | unreserve ys =>
      obtain ⟨rfl, unclaimed, -⟩ := permitted
      exact .free rfl rfl (filterMap_exchange?_append rfl) rfl unclaimed rfl rfl
    | markSpent ys meltId => exact absurd permitted id
  | memory call => cases call <;> exact .nothing rfl rfl rfl rfl rfl rfl
  | mint call answer => exact .nothing rfl rfl rfl rfl rfl rfl
  | draw secret factor new => exact .draw secret new rfl rfl rfl rfl rfl rfl
  | name name => exact .nothing rfl rfl rfl rfl rfl rfl

theorem Meets.orderly {g : Stage S} {request : Request S} {answer : request.Answer}
    (permitted : g.Permits own request) (met : Meets wallet x i request answer y)
    (orderly : x.store.Orderly) : y.store.Orderly := by
  cases met with
  | store call =>
    refine StoreCall.orderly_perform orderly ?_
    cases call with
    | update added removed meltId => exact permitted.2.2.1
    | _ => exact trivial
  | _ => exact orderly

end

/-! ## What all operations keep -/

/-- No secret is drawn twice, nor in the store before its operation has stored something. -/
structure Fresh (g : ι → Stage S) (x : Shared S ι ω) : Prop where
  drawn : ∀ i, x.drawn i = (g i).drawn
  distinct : ∀ i, (pointsOf S (g i).drawn).Nodup
  separate : Pairwise fun i j => (pointsOf S (g i).drawn).Disjoint (pointsOf S (g j).drawn)
  unstored : ∀ i, (g i).stored = false →
    (pointsOf S (g i).drawn).Disjoint (x.store.proofs.map (·.row.y))

/-- What an operation has set aside is not free, and not set aside for another one. -/
structure Consistent (g : ι → Stage S) (x : Shared S ι ω) : Prop extends Fresh g x where
  orderly : x.store.Orderly
  taken : ∀ i, ∀ y ∈ (g i).aside, x.store.Taken y
  apart : Pairwise fun i j => (g i).aside.Disjoint (g j).aside

theorem Consistent.begin {store : Store S} (orderly : store.Orderly) (memory : ω → Memory S) :
    Consistent (fun _ : ι => .start) ⟨store, memory, fun _ => [], fun _ => [], []⟩ where
  drawn _ := rfl
  distinct _ := List.nodup_nil
  separate _ _ _ := List.disjoint_nil_left _
  unstored _ _ := List.disjoint_nil_left _
  orderly := orderly
  taken _ _ none := nomatch none
  apart _ _ _ := List.disjoint_nil_left _

/-- What an operation adds has not been in the store. -/
theorem Fresh.new {g : ι → Stage S} {x : Shared S ι ω} (h : Fresh g x) {i : ι}
    (unstored : (g i).stored = false) {added : List (ProofRow S)}
    (points : (added.map (·.y)).Sublist (pointsOf S (g i).drawn)) :
    (added.map (·.y)).Nodup ∧ ∀ row ∈ added, row.y ∉ x.store.proofs.map (·.row.y) := by
  refine ⟨(h.distinct i).sublist points, fun row mem => ?_⟩
  exact h.unstored i unstored (points.subset (List.mem_map_of_mem mem))

theorem Fresh.update_eq {g : ι → Stage S} {x y : Shared S ι ω} (h : Fresh g x) {i : ι}
    (unstored : (g i).stored = false) {added : List (ProofRow S)}
    (points : (added.map (·.y)).Sublist (pointsOf S (g i).drawn)) {removed : List S.Point}
    {meltId : Option String} (done : x.store.update added removed meltId = .ok y.store) :
    y.store = (x.store.withRows added).modifyAll (Store.StoredProof.archive meltId) removed := by
  obtain ⟨distinct, new⟩ := h.new unstored points
  exact Store.eq_of_update distinct new done

theorem same_update {α β κ : Type} [DecidableEq κ] {f : α → β} {l : κ → α} {k : κ} {a : α}
    (same : f a = f (l k)) (k' : κ) : f (Function.update l k a k') = f (l k') := by
  by_cases here : k' = k
  · subst here
    rw [Function.update_self, same]
  · rw [Function.update_of_ne here]

section

variable [DecidableEq ι] {own : Option (List S.Point)} {g : ι → Stage S} {s : Stage S} {i : ι}
  {x y : Shared S ι ω}

/-- Lists of different operations stay disjoint if the new one is disjoint from the others. -/
theorem pairwise_disjoint_update {f : Stage S → List S.Point}
    (h : Pairwise fun i j => (f (g i)).Disjoint (f (g j)))
    (new : ∀ j, j ≠ i → (f s).Disjoint (f (g j))) :
    Pairwise fun j k => (f (Function.update g i s j)).Disjoint (f (Function.update g i s k)) := by
  intro j k different
  by_cases left : j = i
  · subst left
    rw [Function.update_self, Function.update_of_ne different.symm]
    exact new k different.symm
  · by_cases right : k = i
    · subst right
      rw [Function.update_self, Function.update_of_ne left]
      exact (new j left).symm
    · rw [Function.update_of_ne left, Function.update_of_ne right]
      exact h different

namespace Fresh

/-- Nothing is drawn. -/
theorem of_drawn (h : Fresh g x) (drawn : y.drawn = x.drawn) (secrets : s.drawn = (g i).drawn)
    (unstored : ∀ j, (Function.update g i s j).stored = false →
      (pointsOf S (g j).drawn).Disjoint (y.store.proofs.map (·.row.y))) :
    Fresh (Function.update g i s) y := by
  have secrets := same_update (f := Stage.drawn) secrets
  constructor
  · intro j
    rw [drawn, secrets]
    exact h.drawn j
  · intro j
    rw [secrets]
    exact h.distinct j
  · intro j k different
    rw [secrets, secrets]
    exact h.separate different
  · intro j free
    rw [secrets]
    exact unstored j free

/-- Nothing is drawn or added. -/
theorem of_points (h : Fresh g x) (drawn : y.drawn = x.drawn)
    (points : y.store.proofs.map (·.row.y) = x.store.proofs.map (·.row.y))
    (stored : s.stored = (g i).stored) (secrets : s.drawn = (g i).drawn) :
    Fresh (Function.update g i s) y := by
  refine h.of_drawn drawn secrets fun j => ?_
  rw [same_update (f := Stage.stored) stored, points]
  exact h.unstored j

/-- An operation adds rows of secrets that it has drawn. -/
theorem update (h : Fresh g x) (drawn : y.drawn = x.drawn) (secrets : s.drawn = (g i).drawn)
    {added : List (ProofRow S)} (own : (added.map (·.y)).Sublist (pointsOf S (g i).drawn))
    (points : y.store.proofs.map (·.row.y) = x.store.proofs.map (·.row.y) ++ added.map (·.y))
    (stored : s.stored = true) : Fresh (Function.update g i s) y := by
  refine h.of_drawn drawn secrets fun j => ?_
  rw [points, List.disjoint_append_right]
  by_cases here : j = i
  · subst here
    rw [Function.update_self, stored]
    exact fun impossible => nomatch impossible
  · rw [Function.update_of_ne here]
    intro unstored
    exact ⟨h.unstored j unstored, List.disjoint_of_subset_right own.subset (h.separate here)⟩

theorem draw (h : Fresh g x) {secret : Secret} (new : x.IsNew secret) (store : y.store = x.store)
    (drawn : y.drawn = Function.update x.drawn i (x.drawn i ++ [secret]))
    (stored : s.stored = (g i).stored) (secrets : s.drawn = (g i).drawn ++ [secret]) :
    Fresh (Function.update g i s) y := by
  have points : pointsOf S s.drawn = pointsOf S (g i).drawn ++ pointsOf S [secret] := by
    rw [secrets, pointsOf, List.filterMap_append]
    rfl
  have other (j : ι) : (pointsOf S [secret]).Disjoint (pointsOf S (g j).drawn) := by
    intro p here there
    rw [← h.drawn] at there
    exact (new p here).2 j there
  constructor
  · intro j
    by_cases here : j = i
    · subst here
      rw [drawn, Function.update_self, Function.update_self, h.drawn, secrets]
    · rw [drawn, Function.update_of_ne here, Function.update_of_ne here]
      exact h.drawn j
  · refine (Function.forall_update_iff g fun _ s => (pointsOf S s.drawn).Nodup).2
      ⟨?_, fun j _ => h.distinct j⟩
    rw [points, List.nodup_append']
    refine ⟨h.distinct i, ?_, (other i).symm⟩
    rw [pointsOf, List.filterMap_cons]
    split
    · exact List.nodup_nil
    · exact List.nodup_singleton _
  · refine pairwise_disjoint_update (f := fun s => pointsOf S s.drawn) h.separate fun j here => ?_
    rw [points, List.disjoint_append_left]
    exact ⟨h.separate here.symm, other j⟩
  · intro j
    rw [same_update (f := Stage.stored) stored, store]
    intro unstored
    by_cases here : j = i
    · subst here
      rw [Function.update_self, points, List.disjoint_append_left]
      exact ⟨h.unstored j unstored, fun p mem => (new p mem).1⟩
    · rw [Function.update_of_ne here]
      exact h.unstored j unstored

end Fresh

namespace Consistent

theorem fresh (h : Consistent g x) (effect : Effect own i (g i) s x y) :
    Fresh (Function.update g i s) y := by
  cases effect with
  | nothing proofs drawn _ _ stored secrets =>
    exact h.of_points drawn (congrArg _ proofs) stored secrets
  | reserve done drawn _ _ stored secrets =>
    refine h.of_points drawn ?_ stored secrets
    rw [(Store.reserve_eq_ok done).2, Store.map_ys_withStatus]
  | free done drawn _ _ _ stored secrets =>
    refine h.of_points drawn ?_ stored secrets
    rw [done, Store.unreserve_eq h.orderly.keyed, Store.map_ys_modifyAll Store.freed_y]
  | update added meltId done drawn _ _ unstored stored secrets points =>
    refine h.toFresh.update drawn secrets points ?_ stored
    rw [h.update_eq unstored points done, ← Store.map_ys_withRows,
      Store.map_ys_modifyAll (f := Store.StoredProof.archive meltId) fun _ => rfl]
  | draw secret new store drawn _ _ stored secrets =>
    exact h.toFresh.draw new store drawn stored secrets

/-- What is not free stays so, unless it is freed by the operation that it is set aside for. -/
theorem still_taken (h : Consistent g x) (effect : Effect own i (g i) s x y) {p : S.Point}
    (taken : x.store.Taken p) (safe : (g i).claims = [] → p ∉ (g i).aside) : y.store.Taken p := by
  cases effect with
  | nothing proofs =>
    rw [Store.Taken, proofs]
    exact taken
  | reserve done =>
    rw [(Store.reserve_eq_ok done).2]
    refine taken.modifyAll (f := StoredProof.withStatus .reserved) (fun _ => rfl) ?_
    exact fun _ _ _ status => nomatch status
  | free done _ _ _ unclaimed =>
    rw [done, Store.unreserve_eq h.orderly.keyed]
    exact taken.modifyAll Store.freed_y fun here => absurd here (safe unclaimed)
  | update added meltId done _ _ _ unstored _ _ points =>
    rw [h.update_eq unstored points done]
    exact (taken.withRows added).archive _ _
  | draw _ _ store =>
    rw [store]
    exact taken

/-- What an operation sets aside was free or is new. -/
theorem notMem_aside (h : Consistent g x) (effect : Effect own i (g i) s x y) {p : S.Point}
    (taken : x.store.Taken p) (other : p ∉ (g i).aside) : p ∉ s.aside := by
  cases effect with
  | nothing _ _ _ aside => exact aside ▸ other
  | reserve done =>
    intro here
    have free := (Store.reserve_eq_ok done).1 p here
    rw [taken.not_free h.orderly] at free
    cases free
  | free _ _ _ none => exact none ▸ List.not_mem_nil
  | update added _ _ _ _ aside unstored _ _ points =>
    intro here
    rw [aside] at here
    obtain ⟨row, mem, rfl⟩ := List.mem_map.1 here
    exact (h.new unstored points).2 row (List.mem_filter.1 mem).1 taken.mem_points
  | draw _ _ _ _ _ aside => exact aside ▸ other

/-- What an operation has set aside after a request is not free. -/
theorem aside_taken (h : Consistent g x) (effect : Effect own i (g i) s x y) {p : S.Point}
    (mem : p ∈ s.aside) : y.store.Taken p := by
  cases effect with
  | nothing proofs _ _ aside =>
    rw [Store.Taken, proofs]
    exact h.taken i p (aside ▸ mem)
  | reserve done => exact .of_reserve h.orderly done mem
  | free _ _ _ none =>
    rw [none] at mem
    cases mem
  | update added meltId done _ _ aside unstored _ _ points =>
    rw [aside] at mem
    obtain ⟨row, here, rfl⟩ := List.mem_map.1 mem
    obtain ⟨here, reserved⟩ := List.mem_filter.1 here
    have reserved : row.status = .reserved := of_decide_eq_true reserved
    have unfree : row.status ≠ .unspent := by
      rw [reserved]
      decide
    rw [h.update_eq unstored points done]
    exact (Store.taken_of_mem_rows here unfree).archive _ _
  | draw _ _ store _ _ aside =>
    rw [store]
    exact h.taken i p (aside ▸ mem)

theorem effect (h : Consistent g x) (effect : Effect own i (g i) s x y)
    (orderly : y.store.Orderly) : Consistent (Function.update g i s) y := by
  refine ⟨h.fresh effect, orderly, ?_, ?_⟩
  · refine (Function.forall_update_iff g fun _ s => ∀ p ∈ s.aside, y.store.Taken p).2
      ⟨fun p => h.aside_taken effect, fun j other p mem => ?_⟩
    exact h.still_taken effect (h.taken j p mem) fun _ => h.apart other mem
  · refine pairwise_disjoint_update h.apart fun j other p here there => ?_
    exact h.notMem_aside effect (h.taken j p there) (h.apart other there) here

end Consistent

end

/-! ## Operations that spend only what they have set aside -/

/-- What has become of a row that was free. -/
inductive Accounted (g : ι → Stage S) (x : Shared S ι ω) (row : ProofRow S) : Prop
  | free (held : row ∈ x.store.held)
  | aside (i : ι) (mem : row.y ∈ (g i).aside)
      (held : { row with status := .reserved } ∈ x.store.held)
  | exchanged (entry : ι × List S.Point) (mem : entry ∈ x.exchanged) (given : row.y ∈ entry.2)

/-- What is set aside is reserved, what has been exchanged is archived and was exchanged once, and
what was free at some moment is accounted for. -/
structure Reserving (seen : List (ProofRow S)) (g : ι → Stage S) (x : Shared S ι ω) : Prop
    extends Consistent g x where
  reserved : ∀ i, ∀ p ∈ (g i).aside, ∃ row ∈ x.store.held, row.y = p ∧ row.status = .reserved
  archived : ∀ entry ∈ x.exchanged, ∀ p ∈ entry.2, ∃ row ∈ x.store.archive, row.y = p
  once : x.exchanged.Pairwise fun entry other => entry.2.Disjoint other.2
  unspent : ∀ row ∈ seen, row.status = .unspent
  accounted : ∀ row ∈ seen, Accounted g x row

theorem Reserving.begin {store : Store S} (orderly : store.Orderly) (memory : ω → Memory S) :
    Reserving [] (fun _ : ι => .start) ⟨store, memory, fun _ => [], fun _ => [], []⟩ where
  toConsistent := .begin orderly memory
  reserved _ _ none := nomatch none
  archived _ none := nomatch none
  once := .nil
  unspent _ none := nomatch none
  accounted _ none := nomatch none

/-- What is free now can be followed from now on. -/
theorem Reserving.see {seen : List (ProofRow S)} {g : ι → Stage S} {x : Shared S ι ω}
    (h : Reserving seen g x) : Reserving (x.store.held.filter (·.status = .unspent)) g x where
  toConsistent := h.toConsistent
  reserved := h.reserved
  archived := h.archived
  once := h.once
  unspent _ mem := of_decide_eq_true (List.mem_filter.1 mem).2
  accounted _ mem := .free (List.mem_filter.1 mem).1

namespace Reserving

variable [DecidableEq ι] {seen : List (ProofRow S)} {g : ι → Stage S} {s : Stage S} {i : ι}
  {x y : Shared S ι ω}

/-- Nothing is exchanged. -/
theorem of_archive (h : Reserving seen g x) (consistent : Consistent (Function.update g i s) y)
    (exchanged : y.exchanged = x.exchanged) (archive : y.store.archive = x.store.archive)
    (reserved : ∀ j, ∀ p ∈ (Function.update g i s j).aside, ∃ row ∈ y.store.held,
      row.y = p ∧ row.status = .reserved)
    (free : ∀ row ∈ x.store.held, row.status = .unspent →
      Accounted (Function.update g i s) y row)
    (aside : ∀ row j, row.y ∈ (g j).aside → { row with status := .reserved } ∈ x.store.held →
      row.status = .unspent → Accounted (Function.update g i s) y row) :
    Reserving seen (Function.update g i s) y := by
  refine ⟨consistent, reserved, ?_, ?_, h.unspent, ?_⟩
  · rw [exchanged, archive]
    exact h.archived
  · rw [exchanged]
    exact h.once
  · intro row mem
    have unspent := h.unspent row mem
    cases h.accounted row mem with
    | free there => exact free row there unspent
    | aside j mem there => exact aside row j mem there unspent
    | exchanged entry mem given => exact .exchanged entry (exchanged ▸ mem) given

theorem of_aside (h : Reserving seen g x) (consistent : Consistent (Function.update g i s) y)
    (proofs : y.store.proofs = x.store.proofs) (exchanged : y.exchanged = x.exchanged)
    (aside : s.aside = (g i).aside) : Reserving seen (Function.update g i s) y := by
  have aside := same_update (f := Stage.aside) aside
  have held : y.store.held = x.store.held := by rw [Store.held, proofs, Store.held]
  have archive : y.store.archive = x.store.archive := by rw [Store.archive, proofs, Store.archive]
  refine h.of_archive consistent exchanged archive (fun j => ?_) (fun row there _ => ?_)
    fun row j mem there _ => ?_
  · rw [aside, held]
    exact h.reserved j
  · exact .free (held ▸ there)
  · exact .aside j (aside j ▸ mem) (held ▸ there)

theorem reserve (h : Reserving seen g x) (consistent : Consistent (Function.update g i s) y)
    (exchanged : y.exchanged = x.exchanged) (none : (g i).aside = [])
    (done : x.store.reserve s.aside = .ok y.store) : Reserving seen (Function.update g i s) y := by
  obtain ⟨free, changed⟩ := Store.reserve_eq_ok done
  have held : y.store.held = x.store.held.map fun row =>
      if row.y ∈ s.aside then { row with status := .reserved } else row := by
    rw [changed, Store.held_modifyAll (f := StoredProof.withStatus .reserved) fun _ => rfl]
    rfl
  have archive : y.store.archive = x.store.archive := by
    rw [changed, Store.archive_modifyAll (f := StoredProof.withStatus .reserved) fun _ => rfl]
  have now {row : ProofRow S} (there : row ∈ x.store.held) (mem : row.y ∈ s.aside) :
      { row with status := .reserved } ∈ y.store.held := by
    rw [held]
    exact List.mem_map.2 ⟨row, there, if_pos mem⟩
  have still {row : ProofRow S} (there : row ∈ x.store.held) (status : row.status = .reserved) :
      row ∈ y.store.held := by
    rw [held]
    refine List.mem_map.2 ⟨row, there, ?_⟩
    split
    · rw [← status]
    · rfl
  refine h.of_archive consistent exchanged archive ?_ (fun row there _ => ?_)
    fun row j mem there _ => ?_
  · refine (Function.forall_update_iff g fun _ s => ∀ p ∈ s.aside, ∃ row ∈ y.store.held,
      row.y = p ∧ row.status = .reserved).2 ⟨fun p mem => ?_, fun j _ p mem => ?_⟩
    · obtain ⟨row, there, rfl, -⟩ := h.orderly.keyed.isHeldIn_iff.1 (free p mem)
      exact ⟨_, now there mem, rfl, rfl⟩
    · obtain ⟨row, there, same, status⟩ := h.reserved j p mem
      exact ⟨row, still there status, same, status⟩
  · by_cases here : row.y ∈ s.aside
    · refine .aside i ?_ (now there here)
      rw [Function.update_self]
      exact here
    · refine .free ?_
      rw [held]
      exact List.mem_map.2 ⟨row, there, if_neg here⟩
  · have other : j ≠ i := by
      rintro rfl
      rw [none] at mem
      cases mem
    refine .aside j ?_ (still there rfl)
    rw [Function.update_of_ne other]
    exact mem

theorem free (h : Reserving seen g x) (consistent : Consistent (Function.update g i s) y)
    (exchanged : y.exchanged = x.exchanged) (none : s.aside = [])
    (done : y.store = x.store.unreserve (g i).aside) :
    Reserving seen (Function.update g i s) y := by
  rw [Store.unreserve_eq h.orderly.keyed] at done
  have held : y.store.held = x.store.held.map fun row =>
      if row.y ∈ (g i).aside then (Store.freed ⟨row, false⟩).row else row := by
    rw [done, Store.held_modifyAll Store.freed_archived]
  have archive : y.store.archive = x.store.archive := by
    rw [done, Store.archive_modifyAll Store.freed_archived]
  have still {row : ProofRow S} (there : row ∈ x.store.held) (other : row.y ∉ (g i).aside) :
      row ∈ y.store.held := by
    rw [held]
    exact List.mem_map.2 ⟨row, there, if_neg other⟩
  refine h.of_archive consistent exchanged archive ?_ (fun row there unspent => ?_)
    fun row j mem there unspent => ?_
  · refine (Function.forall_update_iff g fun _ s => ∀ p ∈ s.aside, ∃ row ∈ y.store.held,
      row.y = p ∧ row.status = .reserved).2 ⟨fun p mem => ?_, fun j other p mem => ?_⟩
    · rw [none] at mem
      cases mem
    · obtain ⟨row, there, rfl, status⟩ := h.reserved j p mem
      exact ⟨row, still there (h.apart other mem), rfl, status⟩
  · refine .free ?_
    rw [held]
    refine List.mem_map.2 ⟨row, there, ?_⟩
    have kept : Store.freed ⟨row, false⟩ = ⟨row, false⟩ := if_neg (by simp [unspent])
    rw [kept, ite_self]
  · by_cases here : j = i
    · -- The row was set aside for the operation that frees it, and is as it was again.
      subst here
      refine .free ?_
      rw [held]
      refine List.mem_map.2 ⟨_, there, (if_pos mem).trans ?_⟩
      obtain ⟨_, _, status, _, _⟩ := row
      obtain rfl : status = .unspent := unspent
      rfl
    · refine .aside j ?_ (still there (h.apart here mem))
      rw [Function.update_of_ne here]
      exact mem

/-- What an operation has set aside is archived, once, and replaced by rows of its own. -/
theorem update (h : Reserving seen g x) (consistent : Consistent (Function.update g i s) y)
    (exchanged : y.exchanged = x.exchanged ++ [(i, (g i).aside)]) (unstored : (g i).stored = false)
    {added : List (ProofRow S)} {meltId : Option String}
    (points : (added.map (·.y)).Sublist (pointsOf S (g i).drawn))
    (aside : s.aside = (added.filter (·.status = .reserved)).map (·.y))
    (done : x.store.update added (g i).aside meltId = .ok y.store) :
    Reserving seen (Function.update g i s) y := by
  obtain ⟨distinct, new⟩ := h.new unstored points
  have separate (row : ProofRow S) (mem : row ∈ added) : row.y ∉ (g i).aside :=
    fun here => new row mem (h.taken i _ here).mem_points
  rw [Store.update_of_new meltId distinct new separate] at done
  have changed : y.store = x.store.exchange added (g i).aside meltId := (Except.ok.inj done).symm
  have held : y.store.held = x.store.held.filter (·.y ∉ (g i).aside) ++ added := by
    rw [changed, Store.held_exchange]
  have still {row : ProofRow S} (there : row ∈ x.store.held) (other : row.y ∉ (g i).aside) :
      row ∈ y.store.held := by
    rw [held]
    exact List.mem_append_left _ (List.mem_filter.2 ⟨there, decide_eq_true other⟩)
  have old {entry : ι × List S.Point} (mem : entry ∈ x.exchanged) : entry ∈ y.exchanged := by
    rw [exchanged]
    exact List.mem_append_left _ mem
  have latest : (i, (g i).aside) ∈ y.exchanged := by
    rw [exchanged]
    exact List.mem_append_right _ (List.mem_singleton.2 rfl)
  refine ⟨consistent, ?_, ?_, ?_, h.unspent, ?_⟩
  · refine (Function.forall_update_iff g fun _ s => ∀ p ∈ s.aside, ∃ row ∈ y.store.held,
      row.y = p ∧ row.status = .reserved).2 ⟨fun p mem => ?_, fun j other p mem => ?_⟩
    · rw [aside] at mem
      obtain ⟨row, here, rfl⟩ := List.mem_map.1 mem
      obtain ⟨here, status⟩ := List.mem_filter.1 here
      refine ⟨row, ?_, rfl, of_decide_eq_true status⟩
      rw [held]
      exact List.mem_append_right _ here
    · obtain ⟨row, there, rfl, status⟩ := h.reserved j p mem
      exact ⟨row, still there (h.apart other mem), rfl, status⟩
  · rw [exchanged, changed]
    intro entry mem p given
    rcases List.mem_append.1 mem with mem | mem
    · obtain ⟨row, there, same⟩ := h.archived entry mem p given
      exact ⟨row, Store.mem_archive_exchange.2 (.inl there), same⟩
    · obtain rfl := List.mem_singleton.1 mem
      obtain ⟨row, there, rfl, -⟩ := h.reserved i p given
      exact ⟨_, Store.mem_archive_exchange.2 (.inr ⟨row, there, given, rfl⟩), rfl⟩
  · -- What was exchanged before is archived, and what is exchanged now was still held.
    rw [exchanged, List.pairwise_append]
    refine ⟨h.once, List.pairwise_singleton _ _, fun entry mem other latest p before now => ?_⟩
    obtain rfl := List.mem_singleton.1 latest
    obtain ⟨gone, archived, rfl⟩ := h.archived entry mem p before
    obtain ⟨row, there, same, -⟩ := h.reserved i _ now
    have one := List.inj_on_of_nodup_map h.orderly.distinct (Store.mem_held.1 there)
      (Store.mem_archive.1 archived) same
    cases one
  · intro row mem
    cases h.accounted row mem with
    | free there =>
      by_cases here : row.y ∈ (g i).aside
      · exact .exchanged _ latest here
      · exact .free (still there here)
    | aside j mem there =>
      by_cases here : j = i
      · subst here
        exact .exchanged _ latest mem
      · refine .aside j ?_ (still there (h.apart here mem))
        rw [Function.update_of_ne here]
        exact mem
    | exchanged entry mem given => exact .exchanged entry (old mem) given

theorem effect (h : Reserving seen g x) (effect : Effect none i (g i) s x y)
    (consistent : Consistent (Function.update g i s) y) :
    Reserving seen (Function.update g i s) y := by
  cases effect with
  | nothing proofs _ exchanged aside => exact h.of_aside consistent proofs exchanged aside
  | reserve done _ exchanged none => exact h.reserve consistent exchanged none done
  | free done _ exchanged none => exact h.free consistent exchanged none done
  | update added meltId done _ exchanged aside unstored _ _ points =>
    exact h.update consistent exchanged unstored points aside done
  | draw secret _ store _ exchanged aside =>
    exact h.of_aside consistent (congrArg _ store) exchanged aside

theorem step [DecidableEq ω] {wallet : ι → ω} {request : Request S} {answer : request.Answer}
    (h : Reserving seen g x) (permitted : (g i).Permits none request)
    (met : Meets wallet x i request answer y) :
    Reserving seen (Function.update g i ((g i).after request answer)) y := by
  have effect := met.effect permitted
  exact h.effect effect (h.toConsistent.effect effect (met.orderly permitted h.orderly))

end Reserving

section

variable [DecidableEq ι] [DecidableEq ω] {store : Store S}
  {z y : Interleaved S ι ω fun _ => List (Proof S) × List (Proof S)}

/-- Any number of sends of any wallets over one store, all of which set aside what they hand out,
fall between each other in any way, and the mint answers anything at all; `given` is what each of
them has to choose from, however long ago that was read. What they hand out stays reserved, and no
two of them hand out the same. No proof is exchanged twice. When all have ended, whatever was free at
any moment before is free, or was archived by an exchange, or is handed out. -/
theorem sends_apart (wallet : ι → ω) (settings : ι → Settings) (given : ι → List (Proof S))
    (amount : ι → Amount) (memory : ω → Memory S) (orderly : store.Orderly)
    (early : Interleaved.Reaches wallet (Interleaved.begin store memory fun i =>
      splitToSend (settings i) (given i) (amount i) true) z)
    (late : Interleaved.Reaches wallet z y) :
    (∀ i keep send, y.EndedWith i (.ok (keep, send)) → ∀ p ∈ send,
      ∃ row ∈ y.shared.store.held, p.y = .ok row.y ∧ row.status = .reserved) ∧
    (∀ i j keep keep' send send', i ≠ j → y.EndedWith i (.ok (keep, send)) →
      y.EndedWith j (.ok (keep', send')) → ∀ p ∈ send, ∀ q ∈ send', p.y ≠ q.y) ∧
    (y.shared.exchanged.Pairwise fun entry other => entry.2.Disjoint other.2) ∧
    ((∀ i, ∃ outcome, y.EndedWith i outcome) →
      ∀ row ∈ z.shared.store.held, row.status = .unspent →
        row ∈ y.shared.store.held ∨
        (row.y ∈ y.shared.store.archive.map (·.y) ∧ ∃ entry ∈ y.shared.exchanged, row.y ∈ entry.2) ∨
        ∃ i keep send, y.EndedWith i (.ok (keep, send)) ∧ ∃ p ∈ send, p.y = .ok row.y) := by
  obtain ⟨g, good, obeys⟩ := early.keeps (fun _ => none) (Reserving []) Reserving.step
    ⟨_, .begin orderly memory, fun i => ends_splitToSend (settings i) (given i) (amount i) true⟩
  obtain ⟨g, good, obeys⟩ := late.keeps (fun _ => none) _ Reserving.step ⟨g, good.see, obeys⟩
  -- An operation that has handed something out has set aside just that, and else nothing.
  have handed {i : ι} {keep send : List (Proof S)} (ended : y.EndedWith i (.ok (keep, send))) :
      Proof.ys send = .ok (g i).aside := by
    have ends := obeys i
    rw [ended] at ends
    exact ends.aside rfl
  have point {i : ι} {keep send : List (Proof S)} (ended : y.EndedWith i (.ok (keep, send)))
      {p : Proof S} (mem : p ∈ send) : ∃ q ∈ (g i).aside, p.y = .ok q :=
    exists_of_mem_forall₂ (mapM_eq_ok.1 (handed ended)).flip mem
  refine ⟨?_, ?_, good.once, ?_⟩
  · intro i keep send ended p mem
    obtain ⟨q, aside, known⟩ := point ended mem
    obtain ⟨row, there, rfl, status⟩ := good.reserved i q aside
    exact ⟨row, there, known, status⟩
  · intro i j keep keep' send send' different ended ended' p mem q mem' same
    obtain ⟨r, here, known⟩ := point ended mem
    obtain ⟨r', there, known'⟩ := point ended' mem'
    obtain rfl := Except.ok.inj (known.symm.trans (same.trans known'))
    exact good.apart different here there
  · intro all row held free
    have seen := good.accounted row (List.mem_filter.2 ⟨held, decide_eq_true free⟩)
    cases seen with
    | free there => exact .inl there
    | exchanged entry mem given =>
      obtain ⟨old, archived, same⟩ := good.archived entry mem _ given
      exact .inr (.inl ⟨List.mem_map.2 ⟨old, archived, same⟩, entry, mem, given⟩)
    | aside i mem there =>
      obtain ⟨e | ⟨keep, send⟩, ended⟩ := all i
      · have ends := obeys i
        rw [ended] at ends
        have nothing : (g i).aside = [] := ends.aside
        rw [nothing] at mem
        cases mem
      · obtain ⟨p, sent, known⟩ := exists_of_mem_forall₂ (mapM_eq_ok.1 (handed ended)) mem
        exact .inr (.inr ⟨i, keep, send, ended, p, sent, known⟩)

end

end Wallet

namespace Sample

open Wallet

/-- The promise of the sample mint for an output. -/
def signed (output : Output suite) : Promise suite :=
  ⟨output.amount, output.keysetId,
    ((secretKeyset.get? output.amount).bind fun pair =>
      suite.mul? pair.secretKey output.blinded).getD (scalar 0), none⟩

/-- A turn before a mint that serves only the first of three operations. If a secret is asked for it
is that of a letter. -/
def turn (who : Nat) (letter : Nat) : Turn suite (Fin 3) where
  who := .ofNat 3 who
  mint
    | .split request =>
      if who = 0 then .ok ⟨request.outputs.map signed⟩ else .error .keysetNotFound
    | _ => .error .keysetNotFound
  secret := secret letter
  factor := scalar letter
  name := ""

/-- Turns in some order, each with another letter. -/
def turns (order : List Nat) : List (Turn suite (Fin 3)) :=
  order.zipIdx.map fun (who, n) => turn who (n + 3)

/-- Three sends over a store with proofs of 4, 8 and 2: one wallet sends 3 out of all of them, and
another one 4 out of the first and 3 out of the second. -/
def sends : Interleaved suite (Fin 3) Bool fun _ => List (Proof suite) × List (Proof suite) :=
  .begin (wallet [4, 8, 2]).store (fun _ => (wallet []).memory) fun i =>
    splitToSend .default (![[proof 4 0, proof 8 1, proof 2 2], [proof 4 0], [proof 8 1]] i)
      (.clamp (![3, 4, 3] i)) true

/-- What comes of them when the second one begins while the first one waits, and the mint refuses the
third one. -/
def sendsEnded : Interleaved suite (Fin 3) Bool fun _ =>
    List (Proof suite) × List (Proof suite) :=
  sends.takeAll (fun i => decide (i = 0)) (turns (.replicate 2 0 ++ .replicate 2 1 ++
    .replicate 8 2 ++ [1] ++ .replicate 8 0 ++ .replicate 5 2 ++ .replicate 3 0))

set_option maxRecDepth 4000

/-- The first one exchanges the proof of 4 and hands out 1 and 2. The second one, which would have
handed out the proof of 4 as it is, fails. The third one fails as well and the proof of 8 is free. -/
theorem sends_apart_ended : ∃ keep send, sendsEnded.EndedWith 0 (.ok (keep, send)) ∧
    send.map (·.amount.toNat) = [1, 2] ∧
    (∀ p ∈ send, ∃ row ∈ sendsEnded.shared.store.held, p.y = .ok row.y ∧ row.status = .reserved) ∧
    sendsEnded.EndedWith 1 (.error Operation.beingSpent) ∧
    sendsEnded.shared.exchanged = [(0, [point 0])] ∧
    ∀ row ∈ sends.shared.store.held, row.status = .unspent → row ∈ sendsEnded.shared.store.held ∨
      (row.y ∈ sendsEnded.shared.store.archive.map (·.y) ∧
        ∃ entry ∈ sendsEnded.shared.exchanged, row.y ∈ entry.2) ∨
      ∃ i keep send, sendsEnded.EndedWith i (.ok (keep, send)) ∧ ∃ p ∈ send, p.y = .ok row.y := by
  have orderly : (wallet [4, 8, 2]).store.Orderly := ⟨by decide +kernel, by decide +kernel⟩
  obtain ⟨reserved, -, -, accounted⟩ := sends_apart (fun i => decide (i = 0)) (fun _ => .default)
    ![[proof 4 0, proof 8 1, proof 2 2], [proof 4 0], [proof 8 1]] (fun i => .clamp (![3, 4, 3] i))
    (fun _ => (wallet []).memory) orderly .refl (Interleaved.reaches_takeAll _ _ sends)
  have made : (((sendsEnded.outcome? 0).bind (·.toOption)).map fun parts =>
      parts.2.map (·.amount.toNat)) = some [1, 2] := by decide +kernel
  obtain ⟨⟨keep, send⟩, first, amounts⟩ := Option.map_eq_some_iff.1 made
  obtain ⟨_ | _, known, same⟩ := Option.bind_eq_some_iff.1 first
  · cases same
  cases same
  have ended := Interleaved.endedWith_iff.2 known
  refine ⟨keep, send, ended, amounts, reserved 0 keep send ended, ?_, by decide +kernel,
    accounted fun i => ?_⟩
  · exact Interleaved.endedWith_iff.2 (by decide +kernel)
  · have all : ∀ i, (sendsEnded.outcome? i).isSome = true := by decide +kernel
    obtain ⟨outcome, known⟩ := Option.isSome_iff_exists.1 (all i)
    exact ⟨outcome, Interleaved.endedWith_iff.2 known⟩

end Sample

end Chaumian
