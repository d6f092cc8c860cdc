import Chaumian.Proofs.Wallet.Consulting

/-!
# The keysets a wallet comes to know

What the registry of a wallet knows after a run of calls, whatever the mint has answered.

* `Scene.Registered`: the store lists the keysets that the calls have come to, each identifier once
  and in the order in which it was first seen, and has a keyset for the one that is taken for
  current. Each call keeps this, and so does a run (`World.registered_of_run`).
* `Scene.Follows`: no other identifier than the last one that was listed is taken for current, as
  long as the mint gives no other keyset for its current one (`World.follows_of_run`).

`registry_of_run` says what follows for a wallet whose store was empty in the beginning.
-/

namespace Chaumian

/-! ## What a store lists -/

/-- What has come again is left out, so only the last element of a list has to be looked at. -/
theorem eraseDups_concat {α : Type} [DecidableEq α] (l : List α) (a : α) :
    (l ++ [a]).eraseDups = if a ∈ l then l.eraseDups else l.eraseDups ++ [a] := by
  rw [List.eraseDups_append]
  by_cases again : a ∈ l
  · simp [List.removeAll, again]
  · simp [List.removeAll, List.eraseDups_cons, again]

theorem nodup_eraseDups {α : Type} [DecidableEq α] (l : List α) : l.eraseDups.Nodup := by
  induction l using List.reverseRecOn with
  | nil => exact .nil
  | append_singleton l a ih =>
    rw [eraseDups_concat]
    split
    · exact ih
    · rename_i new
      refine List.nodup_append.2 ⟨ih, List.nodup_singleton a, ?_⟩
      rintro b mem _ last rfl
      exact new (List.mem_singleton.1 last ▸ List.mem_eraseDups.1 mem)

namespace Store

variable {S : Suite} {store : Store S} {k : Keyset S} {seen : List (Keyset S)} {id : KeysetId}

/-- What a store lists of the keysets that were seen, one after the other: each identifier once, in
the order in which it was first seen, and under it the keyset that was seen first. -/
structure Lists (store : Store S) (seen : List (Keyset S)) : Prop where
  verified : ∀ k ∈ seen, k.verifies = true
  first : ∀ id, store.keyset? id = seen.find? (·.id = id)
  ids : store.keysetIds = (seen.map (·.id)).eraseDups

namespace Lists

theorem empty : (empty : Store S).Lists [] := ⟨nofun, fun _ => rfl, rfl⟩

theorem verified_of_stored (h : store.Lists seen) (stored : store.keyset? id = some k) :
    k.verifies = true :=
  h.verified k (List.mem_of_find?_eq_some ((h.first id).symm.trans stored))

theorem mem_ids (h : store.Lists seen) : id ∈ store.keysetIds ↔ (store.keyset? id).isSome := by
  rw [h.ids, List.mem_eraseDups, List.mem_map, h.first, List.find?_isSome]
  simp

theorem learn (h : store.Lists seen) (verified : k.verifies = true) :
    (store.learn k).Lists (seen ++ [k]) where
  verified := List.forall_mem_append.2 ⟨h.verified, List.forall_mem_singleton.2 verified⟩
  first id := by
    rw [keyset?_learn, h.first, List.find?_append]
    simp [List.find?_singleton]
  ids := by
    have again : k.id ∈ seen.map (·.id) ↔ (store.keyset? k.id).isSome := by
      rw [← h.mem_ids, h.ids, List.mem_eraseDups]
    rw [List.map_append, List.map_singleton, eraseDups_concat, ← h.ids]
    unfold Store.learn
    split
    · rw [if_pos (again.2 ‹_›)]
    · rw [if_neg (again.not.2 ‹_›)]

end Lists

end Store

namespace Wallet

variable {S : Suite} {τ : Type}

/-! ## What one call keeps -/

/-- The store lists the keysets that were seen so far, and has one for the identifier that is taken
for current. -/
structure Scene.Registered (x : Scene S τ) (seen : List (Keyset S)) : Prop where
  lists : x.wallet.store.Lists seen
  current : ∀ id, x.wallet.memory.current = some id → (x.wallet.store.keyset? id).isSome

/-- The mint answers a request for its current keyset, if at all, with one of this identifier. -/
def World.Announces (world : World S τ) (last : KeysetId) (mint : τ) : Prop :=
  ∀ k after, world.answer .keys mint = (.ok k, after) → k.id = last

/-- No other identifier than this one is taken for current. -/
def Scene.Follows (x : Scene S τ) (last : KeysetId) : Prop :=
  ∀ id, x.wallet.memory.current = some id → id = last

theorem Memory.current_retain {m : Memory S} {last : Option KeysetId} {id : KeysetId}
    (h : (m.retain last).current = some id) : m.current = some id ∧ last = some id := by
  unfold retain at h
  split at h
  · rename_i same
    exact ⟨h, same ▸ h⟩
  · cases h

namespace World.Consults

variable {world : World S τ} {x y : Scene S τ} {call : RegistryCall S}
  {outcome : Except (Error S) (Outcome S)}

theorem verified_of_seen {seen : List (Keyset S)} (h : world.Consults x call outcome y)
    (lists : x.wallet.store.Lists seen) {k : Keyset S} (new : call.seen outcome = some k) :
    k.verifies = true := by
  cases h with
  | fetched asks answered verified =>
    rw [RegistryCall.seen_keyset asks] at new
    cases new
    exact verified
  | cached known =>
    cases new
    exact lists.verified_of_stored (Scene.stored_of_known known).2
  | stored stored =>
    cases new
    exact lists.verified_of_stored stored
  | told unknown answered named verified =>
    cases new
    exact verified
  | listed => cases new
  | added verified =>
    cases new
    exact verified
  | failed =>
    rw [RegistryCall.seen_error] at new
    cases new

theorem registered {seen : List (Keyset S)} (h : world.Consults x call outcome y)
    (registered : x.Registered seen) :
    y.Registered (seen ++ (call.seen outcome).toList) where
  lists := by
    rw [h.store_eq]
    cases new : call.seen outcome with
    | none => simpa using registered.lists
    | some k => exact registered.lists.learn (h.verified_of_seen registered.lists new)
  current id current := by
    have before (known : x.wallet.memory.current = some id) :
        (y.wallet.store.keyset? id).isSome := by
      obtain ⟨k, stored⟩ := Option.isSome_iff_exists.1 (registered.current id known)
      rw [h.keyset?_eq stored]
      rfl
    cases h with
    | fetched asks answered verified =>
      cases current
      exact Store.isSome_keyset?_learn _ _
    | listed => exact before (Memory.current_retain current).1
    | cached | stored | told | added | failed => exact before current

/-- A call asks the mint at most once, and only the mint's current keyset is then taken for
current. -/
theorem follows {last : KeysetId} (h : world.Consults x call outcome y)
    (announces : world.Announces last x.mint) (follows : x.Follows last) : y.Follows last := by
  intro id current
  cases h with
  | fetched asks answered verified =>
    cases current
    exact announces _ _ answered
  | listed => exact follows id (Memory.current_retain current).1
  | cached | stored | told | added | failed => exact follows id current

/-- After a list was given, nothing but its last identifier is taken for current. -/
theorem follows_last {ids : List KeysetId} {last : KeysetId}
    (h : world.Consults x .fetchKeysetIds (.ok (.keysetIds ids)) y)
    (listed : ids.getLast? = some last) : y.Follows last := by
  intro id current
  cases h with
  | listed answered =>
    have same := (Memory.current_retain current).2
    exact Option.some.inj (same.symm.trans listed)

/-- The current keyset, if it is answered with, is the one that is followed. -/
theorem id_of_currentKeyset {last : KeysetId} {a : Outcome S}
    (h : world.Consults x .currentKeyset (.ok a) y) (announces : world.Announces last x.mint)
    (follows : x.Follows last) : ∃ k, a = .keyset k ∧ k.id = last := by
  cases h with
  | fetched asks answered verified => exact ⟨_, rfl, announces _ _ answered⟩
  | cached known => exact ⟨_, rfl, follows _ (Scene.stored_of_known known).1⟩

/-- The current keyset is answered with if it is known, or else if the mint gives one whose
identifier is the one of its keys. -/
theorem isOk_currentKeyset (h : world.Consults x .currentKeyset outcome y) :
    outcome.isOk = true ↔ x.known.isSome ∨
      ∃ k after, world.answer .keys x.mint = (.ok k, after) ∧ k.verifies = true := by
  cases h with
  | fetched asks answered verified => exact iff_of_true rfl (.inr ⟨_, _, answered, verified⟩)
  | cached known => exact iff_of_true rfl (.inl (known ▸ rfl))
  | failed unknown forged =>
    have none := unknown rfl
    refine iff_of_false nofun ?_
    rintro (known | ⟨k, after, answered, verified⟩)
    · rw [none] at known
      cases known
    · rw [forged none k after answered] at verified
      cases verified

end World.Consults

/-! ## What a run of calls keeps -/

namespace World

/-- The keysets that some calls come to or store. -/
def seen (world : World S τ) : List (RegistryCall S) → Scene S τ → List (Keyset S)
  | [], _ => []
  | call :: rest, x =>
    (call.seen (world.perform call.operation x).1).toList ++
      world.seen rest (world.perform call.operation x).2

variable {world : World S τ} {x : Scene S τ}

/-- Whatever the calls are and whatever the mint answers, the store lists what was seen. -/
theorem registered_of_run {seen : List (Keyset S)} (calls : List (RegistryCall S))
    (registered : x.Registered seen) :
    (world.consultAll calls x).Registered (seen ++ world.seen calls x) := by
  induction calls generalizing x seen with
  | nil => simpa [consultAll, World.seen] using registered
  | cons call rest ih =>
    have after := ih ((world.consults call x).registered registered)
    rw [List.append_assoc] at after
    exact after

/-- While the mint announces one keyset, the wallet follows it. -/
theorem follows_of_run {last : KeysetId} (calls : List (RegistryCall S))
    (announces : ∀ between, between <+: calls →
      world.Announces last (world.consultAll between x).mint)
    (follows : x.Follows last) : (world.consultAll calls x).Follows last := by
  induction calls generalizing x with
  | nil => exact follows
  | cons call rest ih =>
    refine ih (fun between first => ?_) ?_
    · exact announces (call :: between) (List.cons_prefix_cons.2 ⟨rfl, first⟩)
    · exact (world.consults call x).follows (announces [] List.nil_prefix) follows

/-- What is known of keysets after calls that have begun in some scene. -/
structure Registry (world : World S τ) (start : Scene S τ) (calls : List (RegistryCall S)) :
    Prop where
  /-- A keyset is stored under its identifier, and this is the one of its keys. -/
  own : ∀ id k, (world.consultAll calls start).wallet.store.keyset? id = some k →
    k.id = id ∧ k.keys.id = id
  /-- What has been stored at any time is stored still. -/
  kept : ∀ before after, calls = before ++ after → ∀ id k,
    (world.consultAll before start).wallet.store.keyset? id = some k →
      (world.consultAll calls start).wallet.store.keyset? id = some k
  /-- Identifiers are listed in the order in which they were first seen. -/
  ordered : (world.consultAll calls start).wallet.store.keysetIds =
    ((world.seen calls start).map (·.id)).eraseDups
  /-- None is listed twice. -/
  once : (world.consultAll calls start).wallet.store.keysetIds.Nodup
  /-- Those are listed under which a keyset is stored. -/
  listed : ∀ id, id ∈ (world.consultAll calls start).wallet.store.keysetIds ↔
    ((world.consultAll calls start).wallet.store.keyset? id).isSome
  /-- For what is taken for current a keyset is stored. -/
  current : ∀ id, (world.consultAll calls start).wallet.memory.current = some id →
    ((world.consultAll calls start).wallet.store.keyset? id).isSome
  /-- A call that fails leaves the wallet as it was. -/
  failed : ∀ before call after e, calls = before ++ call :: after →
    (world.perform call.operation (world.consultAll before start)).1 = .error e →
      (world.consultAll (before ++ [call]) start).wallet = (world.consultAll before start).wallet
  /-- Let the mint have listed its keysets, and let the last one be the one that it gives, if it
  gives any, each time that it is asked for its current keyset after that. Then the current keyset
  of the wallet is that one. There is one unless it is not known and the mint gives none, or gives
  one whose identifier is not the one of its keys. -/
  settled : ∀ before after ids last, calls = before ++ .fetchKeysetIds :: after →
    (world.perform RegistryCall.fetchKeysetIds.operation (world.consultAll before start)).1 =
      .ok (.keysetIds ids) →
    ids.getLast? = some last →
    (∀ between, between <+: after → world.Announces last
      (world.consultAll (before ++ .fetchKeysetIds :: between) start).mint) →
    (∀ a z, world.perform RegistryCall.currentKeyset.operation (world.consultAll calls start) =
      (.ok a, z) → ∃ k, a = .keyset k ∧ k.id = last) ∧
    ((world.perform RegistryCall.currentKeyset.operation
        (world.consultAll calls start)).1.isOk = true ↔
      (world.consultAll calls start).known.isSome ∨
      ∃ k z, world.answer .keys (world.consultAll calls start).mint = (.ok k, z) ∧
        k.verifies = true)

end World

/-- A wallet that knows nothing in the beginning knows its keysets in good order after any calls of
its registry, whatever its mint answers. -/
theorem registry_of_run (world : World S τ) (settings : Settings) (mint : τ) (drawn named : Nat)
    (calls : List (RegistryCall S)) :
    world.Registry ⟨.ofStore settings .empty, mint, drawn, named⟩ calls := by
  set start : Scene S τ := ⟨.ofStore settings .empty, mint, drawn, named⟩
  have nothing : start.Registered [] := ⟨.empty, nofun⟩
  have registered : (world.consultAll calls start).Registered (world.seen calls start) :=
    World.registered_of_run calls nothing
  constructor
  case own =>
    intro id k stored
    have same := Store.id_of_keyset? stored
    have verified := registered.lists.verified_of_stored stored
    exact ⟨same, (of_decide_eq_true verified).trans same⟩
  case kept =>
    rintro before after rfl id k stored
    rw [World.consultAll_append]
    exact World.stored_of_run after stored
  case ordered => exact registered.lists.ids
  case once =>
    rw [registered.lists.ids]
    exact nodup_eraseDups _
  case listed => exact fun id => registered.lists.mem_ids
  case current => exact registered.current
  case failed =>
    rintro before call after e - failed
    rw [World.consultAll_append]
    have consults := world.consults call (world.consultAll before start)
    rw [failed] at consults
    exact consults.wallet_of_error
  case settled =>
    rintro before after ids last rfl told listed announces
    simp only [World.consultAll_append] at announces ⊢
    have asked := world.consults .fetchKeysetIds (world.consultAll before start)
    rw [told] at asked
    have follows := World.follows_of_run (x := (world.perform
      RegistryCall.fetchKeysetIds.operation (world.consultAll before start)).2) after announces
      (asked.follows_last listed)
    have consults := world.consults .currentKeyset
      (world.consultAll (.fetchKeysetIds :: after) (world.consultAll before start))
    refine ⟨fun a z ran => ?_, consults.isOk_currentKeyset⟩
    rw [ran] at consults
    exact consults.id_of_currentKeyset (announces after (List.prefix_refl after)) follows

end Wallet

end Chaumian

namespace Chaumian.Sample

open Wallet

/-- A keyset with a single key, for the amount 1, under the identifier that follows from it. -/
def firstKeyset : Keyset suite :=
  ⟨⟨[35, 7, 247, 127, 78, 253, 123, 115, 219], rfl⟩, .ofList [(.clamp 1, scalar 10)]⟩

/-- A keyset with another key for the amount 1. -/
def secondKeyset : Keyset suite :=
  ⟨⟨[201, 227, 193, 89, 4, 98, 65, 94, 73], rfl⟩, .ofList [(.clamp 1, scalar 11)]⟩

/-- A mint that goes over to the second keyset when it has been asked for the first one. -/
def rotating : World suite Bool where
  answer
    | .keys, rotated => (.ok (if rotated then secondKeyset else firstKeyset), true)
    | .keysets, rotated => (.ok ⟨[firstKeyset.id, secondKeyset.id]⟩, rotated)
    | _, rotated => (.error .keysetNotFound, rotated)
  draw n := (secret n, scalar n)
  meltId n := s!"payment {n}"

/-- A wallet that knows no keyset, before that mint. -/
def unacquainted : Scene suite Bool := ⟨.ofStore .default .empty, false, 0, 0⟩

/-- It asks for the current keyset and then for the list, and for a keyset that it has stored. -/
def rotation : List (RegistryCall suite) :=
  [.fetchKeys, .fetchKeysetIds, .fetchKeysOf firstKeyset.id]

set_option maxRecDepth 4000

/-- The wallet took the first keyset for current, and the list has told it not to. When it needs the
current keyset it is given the second one. -/
theorem registry_of_rotation : rotating.Registry unacquainted rotation ∧
    (rotating.consultAll rotation unacquainted).wallet.store.keysetIds = [firstKeyset.id] ∧
    ∃ k z, rotating.perform RegistryCall.currentKeyset.operation
        (rotating.consultAll rotation unacquainted) = (.ok (.keyset k), z) ∧
      k.id = secondKeyset.id := by
  have registry : rotating.Registry unacquainted rotation :=
    registry_of_run rotating .default false 0 0 rotation
  obtain ⟨listed, rotated, done⟩ :
      (rotating.consultAll rotation unacquainted).wallet.store.keysetIds = [firstKeyset.id] ∧
        (∀ between ∈ [.fetchKeysOf firstKeyset.id].inits,
          (rotating.consultAll ([.fetchKeys] ++ .fetchKeysetIds :: between)
            unacquainted).mint = true) ∧
        (rotating.perform RegistryCall.currentKeyset.operation
          (rotating.consultAll rotation unacquainted)).1.isOk = true := by
    decide +kernel
  have settled := registry.settled [.fetchKeys] [.fetchKeysOf firstKeyset.id]
    [firstKeyset.id, secondKeyset.id] secondKeyset.id rfl rfl rfl
    fun between first k after answered => by
      rw [rotated between ((List.mem_inits _ _).2 first)] at answered
      cases answered
      rfl
  obtain ⟨a, ran⟩ := rotating.perform_of_isOk _ _ done
  obtain ⟨k, rfl, named⟩ := settled.1 a _ ran
  exact ⟨registry, listed, k, _, ran, named⟩

end Chaumian.Sample
