import Chaumian.Proofs.Wallet.KnownKeysets

/-!
# The keysets that a wallet is answered with

A keyset that the registry answers with comes from the store, or it has just come from the mint and
been shown to the store. In the first case it is the one that is stored under its identifier, and so
it is when the mint was asked for a keyset of that identifier, which it is only asked for while there
is none. When the mint is asked for its current keyset, the answer is passed on as it is, while the
store keeps what it has under that identifier.

* `returned_of_run`: what the registry answers with is what is stored under its identifier exactly if
  the mint, where it was asked for its current keyset, did not contradict what is stored
  (`World.Agrees`); two answers for which it did not are the same if their identifiers are.
* `World.fetchKeys_of_relabelled`: the check of identifiers does not make a mint agree. The amounts
  of the keys are not among what an identifier follows from (`Keys.id_congr`), so a mint may give the
  same keys for other amounts. The wallet is answered with these, and the store keeps the others.
-/

namespace Chaumian

variable {S : Suite}

/-! ## What an identifier does not tell -/

/-- The identifier of keys follows from the keys in their order, whatever they are for. -/
theorem Keys.id_congr {keys keys' : Keys S}
    (same : keys.entries.map (·.2) = keys'.entries.map (·.2)) : keys.id = keys'.id := by
  let text (key : S.Point) := Bytes.ofText (Key.publicText S key)
  have texts (keys : Keys S) : (keys.entries.flatMap fun e => text e.2) =
      (keys.entries.map (·.2)).flatMap text := by
    rw [List.flatMap_map]
  have hashed : (keys.entries.flatMap fun e => text e.2) =
      keys'.entries.flatMap fun e => text e.2 := by
    rw [texts, texts, same]
  exact KeysetId.ext (congrArg (fun bytes => (Sha256.hash bytes).take 9) hashed)

theorem Keyset.verifies_of_relabelled {k k' : Keyset S} (named : k'.id = k.id)
    (same : k'.keys.entries.map (·.2) = k.keys.entries.map (·.2)) (verified : k.verifies = true) :
    k'.verifies = true := by
  unfold Keyset.verifies at verified ⊢
  rw [Keys.id_congr same, named]
  exact verified

namespace Wallet

variable {τ : Type}

/-! ## Answers that agree with the store -/

/-- If the call asks the mint for its current keyset and the mint gives one, then the store has no
other one under its identifier. -/
def World.Agrees (world : World S τ) (x : Scene S τ) (call : RegistryCall S) : Prop :=
  call.AsksCurrent x → ∀ k after, world.answer .keys x.mint = (.ok k, after) →
    ∀ known, x.wallet.store.keyset? k.id = some known → known = k

namespace World

variable {world : World S τ} {x y : Scene S τ} {call : RegistryCall S} {k : Keyset S}

theorem Consults.stored_iff (h : world.Consults x call (.ok (.keyset k)) y) :
    y.wallet.store.keyset? k.id = some k ↔ world.Agrees x call := by
  cases h with
  | fetched asks answered verified =>
    show (x.wallet.store.learn k).keyset? k.id = some k ↔ _
    constructor
    · intro stored _ k' after again known there
      cases answered.symm.trans again
      rw [Store.keyset?_learn_of_stored there] at stored
      exact Option.some.inj stored
    · intro agrees
      rw [Store.keyset?_learn, if_pos rfl]
      rcases there : x.wallet.store.keyset? k.id with _ | known
      · rfl
      · exact congrArg some (agrees asks k _ answered known there)
  | cached known =>
    refine iff_of_true (Scene.stored_of_known known).2 fun asks => ?_
    cases asks.symm.trans known
  | stored stored =>
    exact iff_of_true (Store.id_of_keyset? stored ▸ stored) fun asks => asks.elim
  | told new answered named verified =>
    refine iff_of_true ?_ fun asks => asks.elim
    show (x.wallet.store.learn k).keyset? k.id = some k
    rw [Store.keyset?_learn, named, new, if_pos rfl, Option.none_or]

/-- Where the mint is asked for its current keyset, its answer is passed on. -/
theorem perform_fetchKeys {after : τ} (answered : world.answer .keys x.mint = (.ok k, after))
    (verified : k.verifies = true) :
    ∃ y, world.perform RegistryCall.fetchKeys.operation x = (.ok (.keyset k), y) ∧
      y.mint = after ∧ y.wallet.store = x.wallet.store.learn k := by
  have consults := world.consults .fetchKeys x
  rcases ran : world.perform RegistryCall.fetchKeys.operation x with ⟨outcome, y⟩
  rw [ran] at consults
  cases consults with
  | fetched asks again verified' =>
    cases answered.symm.trans again
    exact ⟨_, rfl, rfl, rfl⟩
  | failed unknown forged =>
    have bad := forged trivial k after answered
    rw [verified] at bad
    cases bad

/-- Where a keyset is stored, it is answered with, and the mint is not asked. -/
theorem perform_fetchKeysOf {id : KeysetId} (stored : x.wallet.store.keyset? id = some k) :
    world.perform (RegistryCall.fetchKeysOf id).operation x = (.ok (.keyset k), x) := by
  have ends : world.Ends (RegistryCall.fetchKeysOf id).operation x
      (fun a y => a = .keyset k ∧ y = x) fun _ _ => False :=
    .map ((ends_fetchKeysOf_stored stored).mono
      (fun _ _ ⟨same, still⟩ => ⟨congrArg _ same, still⟩) fun _ _ h => h)
  rcases ran : world.perform (RegistryCall.fetchKeysOf id).operation x with ⟨e | a, y⟩
  · exact (ends.error ran).elim
  · obtain ⟨rfl, rfl⟩ := ends.ok ran
    rfl

/-- If the mint gives the keys of a keyset that is stored for other amounts, the wallet is answered
with these, and the store keeps the ones that it has. -/
theorem fetchKeys_of_relabelled {k' : Keyset S} {after : τ}
    (stored : x.wallet.store.keyset? k.id = some k) (verified : k.verifies = true)
    (answered : world.answer .keys x.mint = (.ok k', after)) (named : k'.id = k.id)
    (same : k'.keys.entries.map (·.2) = k.keys.entries.map (·.2)) :
    ∃ y, world.perform RegistryCall.fetchKeys.operation x = (.ok (.keyset k'), y) ∧
      y.wallet.store.keyset? k'.id = some k := by
  obtain ⟨y, ran, -, learned⟩ :=
    perform_fetchKeys answered (Keyset.verifies_of_relabelled named same verified)
  refine ⟨y, ran, ?_⟩
  rw [learned, named]
  exact Store.keyset?_learn_of_stored stored k'

end World

/-! ## Runs of calls -/

/-- Let a call in a run be answered with a keyset. This is what the store has under its identifier
then if and only if the mint, where the call asked it for its current keyset, gave no other keys than
those that were stored. If so, and if it is so again for a later call that is answered with a keyset
of this identifier, then the two are the same. -/
theorem returned_of_run (world : World S τ) (start : Scene S τ) (before : List (RegistryCall S))
    (call : RegistryCall S) {k : Keyset S} {y : Scene S τ}
    (ran : world.perform call.operation (world.consultAll before start) = (.ok (.keyset k), y)) :
    (y.wallet.store.keyset? k.id = some k ↔ world.Agrees (world.consultAll before start) call) ∧
      ∀ between later k' z,
        world.perform later.operation (world.consultAll between y) = (.ok (.keyset k'), z) →
        world.Agrees (world.consultAll before start) call →
        world.Agrees (world.consultAll between y) later → k'.id = k.id → k' = k := by
  have consults := world.consults call (world.consultAll before start)
  rw [ran] at consults
  refine ⟨consults.stored_iff, fun between later k' z ran' agrees agrees' same => ?_⟩
  have consults' := world.consults later (world.consultAll between y)
  rw [ran'] at consults'
  -- What the first call was answered with is stored, and is stored still after the second one.
  have first : z.wallet.store.keyset? k.id = some k :=
    consults'.keyset?_eq (World.stored_of_run between (consults.stored_iff.2 agrees))
  have second := consults'.stored_iff.2 agrees'
  rw [same, first] at second
  exact (Option.some.inj second).symm

end Wallet

end Chaumian

namespace Chaumian.Sample

open Wallet

/-- The second keyset is stored when it is fetched, since nothing was stored under its identifier. It
is the same when it is looked up later. -/
theorem returned_of_rotation : ∃ y,
    rotating.perform RegistryCall.fetchKeys.operation (rotating.consultAll rotation unacquainted) =
        (.ok (.keyset secondKeyset), y) ∧
      y.wallet.store.keyset? secondKeyset.id = some secondKeyset ∧
      rotating.perform (RegistryCall.fetchKeysOf secondKeyset.id).operation y =
        (.ok (.keyset secondKeyset), y) := by
  obtain ⟨rotated, new, verified⟩ :
      (rotating.consultAll rotation unacquainted).mint = true ∧
        (rotating.consultAll rotation unacquainted).wallet.store.keyset? secondKeyset.id = none ∧
        secondKeyset.verifies = true := by
    decide +kernel
  have answered : rotating.answer .keys (rotating.consultAll rotation unacquainted).mint =
      (.ok secondKeyset, true) := by
    rw [rotated]
    rfl
  have agrees : rotating.Agrees (rotating.consultAll rotation unacquainted) .fetchKeys := by
    intro _ k after again known there
    cases answered.symm.trans again
    rw [new] at there
    cases there
  obtain ⟨y, ran, -, -⟩ := World.perform_fetchKeys answered verified
  have stored := (returned_of_run rotating unacquainted rotation .fetchKeys ran).1.2 agrees
  exact ⟨y, ran, stored, World.perform_fetchKeysOf stored⟩

/-- The keys of the sample keyset for the amounts 2 to 16, under the same identifier. -/
def relabelled : Keyset suite :=
  ⟨keyset.id, .ofList ([1, 2, 4, 8].map fun n => (Amount.clamp (2 * n), scalar (10 * n)))⟩

/-- A mint that gives these when it has been asked for the sample keyset. -/
def relabelling : World suite Bool where
  answer
    | .keys, asked => (.ok (if asked then relabelled else keyset), true)
    | _, asked => (.error .keysetNotFound, asked)
  draw n := (secret n, scalar n)
  meltId n := s!"payment {n}"

/-- A wallet that fetches the keys of that mint twice is answered with two keysets of one identifier
and with two keys for the amount 2. The second one is not what its store has under the
identifier. -/
theorem fetched_apart : ∃ y z,
    relabelling.perform RegistryCall.fetchKeys.operation unacquainted =
        (.ok (.keyset keyset), y) ∧
      relabelling.perform RegistryCall.fetchKeys.operation y = (.ok (.keyset relabelled), z) ∧
      relabelled.id = keyset.id ∧
      z.wallet.store.keyset? relabelled.id = some keyset ∧ relabelled ≠ keyset ∧
      keyset.keys.get? (.clamp 2) = some (suite.base (scalar 20)) ∧
      relabelled.keys.get? (.clamp 2) = some (suite.base (scalar 10)) := by
  have verified : keyset.verifies = true := by decide +kernel
  have answered : relabelling.answer .keys unacquainted.mint = (.ok keyset, true) := rfl
  obtain ⟨y, first, asked, learned⟩ := World.perform_fetchKeys answered verified
  have stored : y.wallet.store.keyset? keyset.id = some keyset := by
    rw [learned, Store.keyset?_learn, if_pos rfl]
    rfl
  have answered : relabelling.answer .keys y.mint = (.ok relabelled, true) := by
    rw [asked]
    rfl
  have evaluated : relabelled.keys.entries.map (·.2) = keyset.keys.entries.map (·.2) ∧
      relabelled ≠ keyset ∧ keyset.keys.get? (.clamp 2) = some (suite.base (scalar 20)) ∧
      relabelled.keys.get? (.clamp 2) = some (suite.base (scalar 10)) := by
    decide +kernel
  obtain ⟨same, apart, keys⟩ := evaluated
  obtain ⟨z, second, kept⟩ := World.fetchKeys_of_relabelled stored verified answered rfl same
  exact ⟨y, z, first, second, rfl, kept, apart, keys⟩

end Chaumian.Sample
