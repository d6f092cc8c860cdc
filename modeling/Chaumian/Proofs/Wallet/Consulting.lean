import Chaumian.Proofs.Wallet.Registry
import Chaumian.Wallet.Command

/-!
# Calls of the registry of keysets

A wallet is asked for keysets, one call after the other, and is given others directly. Its mint may
answer each time with anything. All that a call can come to is said once, by `World.Consults`: a
keyset from the mint or from the store, a list of identifiers, or a failure. To the store nothing is
done but that it is shown the keyset of the call, so what is stored is never replaced
(`World.stored_of_run`).
-/

namespace Chaumian.Wallet

variable {S : Suite} {τ : Type}

/-! ## Calls of the registry -/

/-- A call of the registry of a wallet, or of its store past the registry. -/
inductive RegistryCall (S : Suite) where
  | fetchKeys
  | fetchKeysOf (id : KeysetId)
  | fetchKeysetIds
  | currentKeyset
  /-- To store a keyset. -/
  | add (keyset : Keyset S)

namespace RegistryCall

/-- The operation that a call is. -/
def operation : RegistryCall S → Operation S (Outcome S)
  | fetchKeys => do return .keyset (← Wallet.fetchKeys)
  | fetchKeysOf id => do return .keyset (← Wallet.fetchKeysOf id)
  | fetchKeysetIds => do return .keysetIds (← Wallet.fetchKeysetIds)
  | currentKeyset => do return .keyset (← Wallet.currentKeyset)
  | add keyset => do Operation.askStore (.addKeyset keyset); return .done

/-- The mint is asked for its current keyset. -/
def AsksCurrent (x : Scene S τ) : RegistryCall S → Prop
  | fetchKeys => True
  | currentKeyset => x.known = none
  | _ => False

/-- The keyset that a call has come to, or that it has stored. -/
def seen : RegistryCall S → Except (Error S) (Outcome S) → Option (Keyset S)
  | add keyset, .ok _ => some keyset
  | _, .ok (.keyset keyset) => some keyset
  | _, _ => none

end RegistryCall

/-- What a call of the registry can come to: its outcome, and the scene after it. -/
inductive World.Consults (world : World S τ) (x : Scene S τ) :
    RegistryCall S → Except (Error S) (Outcome S) → Scene S τ → Prop
  /-- The mint's answer is stored, if nothing is stored under its identifier, and is current. -/
  | fetched {call : RegistryCall S} {k : Keyset S} {mint : τ} (asks : call.AsksCurrent x)
    (answered : world.answer .keys x.mint = (.ok k, mint)) (verified : k.verifies = true) :
    Consults world x call (.ok (.keyset k))
      (({ x with mint }.withStore (x.wallet.store.learn k)).withMemory
        { x.wallet.memory with current := some k.id })
  | cached {k : Keyset S} (known : x.known = some k) :
    Consults world x .currentKeyset (.ok (.keyset k)) x
  | stored {id : KeysetId} {k : Keyset S} (stored : x.wallet.store.keyset? id = some k) :
    Consults world x (.fetchKeysOf id) (.ok (.keyset k)) x
  | told {id : KeysetId} {k : Keyset S} {mint : τ} (new : x.wallet.store.keyset? id = none)
    (answered : world.answer (.keyset id) x.mint = (.ok k, mint)) (named : k.id = id)
    (verified : k.verifies = true) :
    Consults world x (.fetchKeysOf id) (.ok (.keyset k))
      ({ x with mint }.withStore (x.wallet.store.learn k))
  /-- What is current is forgotten unless it is listed last. -/
  | listed {list : KeysetList} {mint : τ}
    (answered : world.answer .keysets x.mint = (.ok list, mint)) :
    Consults world x .fetchKeysetIds (.ok (.keysetIds list.ids))
      ({ x with mint }.withMemory (x.wallet.memory.retain list.ids.getLast?))
  | added {k : Keyset S} (verified : k.verifies = true) :
    Consults world x (.add k) (.ok .done) (x.withStore (x.wallet.store.learn k))
  /-- Only the mint may have noticed. If the current keyset was asked for, it is not known, and if
  the mint was asked for it, the answer was no good one. -/
  | failed {call : RegistryCall S} {e : Error S} {mint : τ}
    (unknown : call = .currentKeyset → x.known = none)
    (forged : call.AsksCurrent x →
      ∀ k after, world.answer .keys x.mint = (.ok k, after) → k.verifies = false) :
    Consults world x call (.error e) { x with mint }

namespace World

variable {world : World S τ} {x y : Scene S τ} {call : RegistryCall S}

/-- Whichever call asks the mint for its current keyset, it goes on from there in the same way. -/
theorem consults_fetchKeys (asks : call.AsksCurrent x)
    (unknown : call = .currentKeyset → x.known = none) :
    world.Ends Wallet.fetchKeys x (fun k y => world.Consults x call (.ok (.keyset k)) y)
      fun e y => world.Consults x call (.error e) y := by
  refine .seq (.askMint (fun k mint answered => ?_) fun e mint answered => ?_)
  · have forged (bad : k.verifies = false) : ∀ k' after,
        world.answer .keys x.mint = (.ok k', after) → k'.verifies = false := by
      intro k' after again
      cases answered.symm.trans again
      exact bad
    refine .guard (fun bad => ?_) fun good => ?_
    · exact .failed unknown fun _ => forged (by simpa using bad)
    · refine .seq ((ends_learn k _).mono ?_ ?_)
      · rintro _ y ⟨verified, rfl⟩
        exact .seq (.askMemory (.pure (.fetched asks answered verified)))
      · rintro _ y ⟨bad, rfl⟩
        exact .failed unknown fun _ => forged bad
  · refine .failed unknown fun _ k after again => ?_
    cases answered.symm.trans again

theorem consults_fetchKeysOf (id : KeysetId) (x : Scene S τ) :
    world.Ends (Wallet.fetchKeysOf id) x
      (fun k y => world.Consults x (.fetchKeysOf id) (.ok (.keyset k)) y)
      fun e y => world.Consults x (.fetchKeysOf id) (.error e) y := by
  have failed (e : Error S) (mint : τ) :
      world.Consults x (.fetchKeysOf id) (.error e) { x with mint } :=
    .failed nofun fun asks => asks.elim
  refine .seq (.askStore (fun found store called => ?_) fun _ _ called => nomatch called)
  cases called
  rcases stored : x.wallet.store.keyset? id with _ | k
  · refine .seq (.askMint (fun k mint answered => ?_) fun e mint _ => failed e mint)
    refine .guard (fun _ => failed _ mint) fun good => ?_
    have named : k.id = id := by
      by_contra other
      exact good (by simp [other])
    refine .seq ((ends_learn k _).mono ?_ ?_)
    · rintro _ y ⟨verified, rfl⟩
      exact .pure (.told stored answered named verified)
    · rintro e y ⟨-, rfl⟩
      exact failed e mint
  · exact .pure (.stored stored)

/-- What a call does is one of the ways in which it can end. -/
theorem consults (call : RegistryCall S) (x : Scene S τ) :
    world.Consults x call (world.perform call.operation x).1
      (world.perform call.operation x).2 := by
  suffices ends : world.Ends call.operation x (fun a y => world.Consults x call (.ok a) y)
      fun e y => world.Consults x call (.error e) y
    from Ends.of_perform (Q := world.Consults x call) ends rfl
  cases call with
  | fetchKeys => exact .map (consults_fetchKeys trivial nofun)
  | fetchKeysOf id => exact .map (consults_fetchKeysOf id x)
  | fetchKeysetIds =>
    refine .map (.seq (.askMint (fun list mint answered => ?_) fun e mint _ => ?_))
    · exact .seq (.askMemory (.pure (.listed answered)))
    · exact .failed nofun fun asks => asks.elim
  | currentKeyset =>
    refine .map (.seq ((ends_cachedCurrent x).mono ?_ fun _ _ h => h.elim))
    rintro cached y ⟨rfl, same⟩
    cases cached with
    | some k => exact .pure (.cached same.symm)
    | none => exact consults_fetchKeys same.symm fun _ => same.symm
  | add k =>
    refine .seq ((ends_learn k x).mono ?_ ?_)
    · rintro _ y ⟨verified, rfl⟩
      exact .pure (.added verified)
    · rintro e y ⟨-, rfl⟩
      exact .failed nofun fun asks => asks.elim

end World

/-! ## What a call does to the store -/

namespace RegistryCall

theorem seen_keyset {x : Scene S τ} {call : RegistryCall S} (asks : call.AsksCurrent x)
    (k : Keyset S) : call.seen (.ok (.keyset k)) = some k := by
  cases call with
  | fetchKeys | currentKeyset => rfl
  | fetchKeysOf | fetchKeysetIds | add => exact asks.elim

theorem seen_error (call : RegistryCall S) (e : Error S) : call.seen (.error e) = none := by
  cases call <;> rfl

end RegistryCall

namespace World.Consults

variable {world : World S τ} {x y : Scene S τ} {call : RegistryCall S}
  {outcome : Except (Error S) (Outcome S)}

/-- All that a call does to the store is to show it the keyset that was seen. -/
theorem store_eq (h : world.Consults x call outcome y) :
    y.wallet.store = (call.seen outcome).elim x.wallet.store x.wallet.store.learn := by
  cases h with
  | fetched asks answered verified =>
    rw [RegistryCall.seen_keyset asks]
    rfl
  | cached known => exact (Store.learn_of_stored (Scene.stored_of_known known).2).symm
  | stored stored => exact (Store.learn_of_stored stored).symm
  | told | listed | added => rfl
  | failed =>
    rw [RegistryCall.seen_error]
    rfl

/-- A keyset that is stored is stored still after a call. -/
theorem keyset?_eq (h : world.Consults x call outcome y) {id : KeysetId} {k : Keyset S}
    (stored : x.wallet.store.keyset? id = some k) : y.wallet.store.keyset? id = some k := by
  rw [h.store_eq]
  cases call.seen outcome with
  | none => exact stored
  | some new => exact Store.keyset?_learn_of_stored stored new

theorem wallet_of_error {e : Error S} (h : world.Consults x call (.error e) y) :
    y.wallet = x.wallet := by
  cases h
  rfl

end World.Consults

/-! ## One call after the other -/

namespace World

/-- The scene after some calls. -/
def consultAll (world : World S τ) : List (RegistryCall S) → Scene S τ → Scene S τ
  | [], x => x
  | call :: rest, x => world.consultAll rest (world.perform call.operation x).2

variable {world : World S τ} {x : Scene S τ}

theorem consultAll_append (before after : List (RegistryCall S)) (x : Scene S τ) :
    world.consultAll (before ++ after) x = world.consultAll after (world.consultAll before x) := by
  induction before generalizing x with
  | nil => rfl
  | cons call rest ih => exact ih _

/-- A keyset that is stored is stored still after any calls. -/
theorem stored_of_run {id : KeysetId} {k : Keyset S} (calls : List (RegistryCall S))
    (stored : x.wallet.store.keyset? id = some k) :
    (world.consultAll calls x).wallet.store.keyset? id = some k := by
  induction calls generalizing x with
  | nil => exact stored
  | cons call rest ih => exact ih ((world.consults call x).keyset?_eq stored)

end World

end Chaumian.Wallet
