import Chaumian.Proofs.Mint.Keysets
import Chaumian.Proofs.Wallet.States

/-!
# A wallet before its own mint

Here the mint is no longer anything at all: it meets each call as it is defined. A call that it
refuses leaves it as it was, and looking things up leaves it `Calm`: neither the mint nor the books
of the wallet change, and the keysets that the wallet comes to know are those the mint has
published.
-/

namespace Chaumian.Wallet

variable {S : Suite}

/-- All that is new each time, to a mint and to its wallet. -/
structure Supply (S : Suite) where
  source : Nat → MintSource S
  draw : Nat → Secret × S.Scalar
  meltId : Nat → String

/-- The world of a mint that meets each call as it is defined, the n-th one with the n-th source. -/
def Supply.world (supply : Supply S) (lightning : Lightning) : World S (Mint S × Nat) where
  answer call state :=
    let (answer, m) := state.1.serve lightning (supply.source state.2) call
    (answer.mapError .ofRefusal, (m, state.2 + 1))
  draw := supply.draw
  meltId := supply.meltId

/-- The wallet has stored only keysets as its mint has published them. -/
structure Scene.Faces (x : Scene S (Mint S × Nat)) : Prop where
  sound : x.mint.1.Sound
  registered : ∀ k ∈ x.wallet.store.keysets, x.mint.1.keyset k.id = .ok k

/-- A keyset of the mint that the wallet has stored. -/
structure Scene.Stored (x : Scene S (Mint S × Nat)) (k : Keyset S) : Prop where
  published : x.mint.1.keyset k.id = .ok k
  stored : x.wallet.store.keyset? k.id = some k

theorem Scene.Faces.stored {x : Scene S (Mint S × Nat)} (faces : x.Faces) {id : KeysetId}
    {k : Keyset S} (found : x.wallet.store.keyset? id = some k) : x.Stored k ∧ k.id = id := by
  have same := Store.id_of_keyset? found
  exact ⟨⟨faces.registered k (List.mem_of_find?_eq_some found), same ▸ found⟩, same⟩

/-- From one scene to another one neither the mint nor the books have changed. -/
structure Scene.Calm (x y : Scene S (Mint S × Nat)) : Prop extends x.Undisturbed y where
  mint : y.mint.1 = x.mint.1
  faces : x.Faces → y.Faces

namespace Scene.Calm

variable {x y z : Scene S (Mint S × Nat)}

theorem trans (first : x.Calm y) (second : y.Calm z) : x.Calm z where
  toUndisturbed := first.toUndisturbed.trans second.toUndisturbed
  mint := second.mint.trans first.mint
  faces h := second.faces (first.faces h)

instance : IsPreorder (Scene S (Mint S × Nat)) Scene.Calm where
  refl _ := ⟨⟨rfl, rfl, rfl⟩, rfl, id⟩
  trans _ _ _ := Scene.Calm.trans

theorem withMemory (x : Scene S (Mint S × Nat)) (memory : Memory S) :
    x.Calm (x.withMemory memory) :=
  ⟨⟨rfl, rfl, rfl⟩, rfl, fun faces => ⟨faces.sound, faces.registered⟩⟩

theorem served (x : Scene S (Mint S × Nat)) (n : Nat) : x.Calm { x with mint := (x.mint.1, n) } :=
  ⟨⟨rfl, rfl, rfl⟩, rfl, fun faces => ⟨faces.sound, faces.registered⟩⟩

end Scene.Calm

namespace World

variable {supply : Supply S} {lightning : Lightning} {α : Type}

theorem answer_eq (call : MintCall S) (m : Mint S) (n : Nat) :
    (supply.world lightning).answer call (m, n) =
      ((m.serve lightning (supply.source n) call).1.mapError .ofRefusal,
        ((m.serve lightning (supply.source n) call).2, n + 1)) := rfl

theorem ends_ask {x : Scene S (Mint S × Nat)} {call : MintCall S}
    {Q : call.Result → Scene S (Mint S × Nat) → Prop} {E : Error S → Scene S (Mint S × Nat) → Prop}
    (granted : ∀ source answer m n, x.mint.1.serve lightning source call = (.ok answer, m) →
      Q answer { x with mint := (m, n) })
    (refused : ∀ e n, E e { x with mint := (x.mint.1, n) }) :
    (supply.world lightning).Ends (Operation.askMint call) x Q E := by
  obtain ⟨w, ⟨m, n⟩, drawn, named⟩ := x
  refine .askMint (fun answer mint answered => ?_) fun e mint answered => ?_
  · rw [answer_eq] at answered
    rcases served : m.serve lightning (supply.source n) call with ⟨r | a, m'⟩
    · rw [served] at answered
      cases answered
    · rw [served] at answered
      cases answered
      exact granted _ answer m' _ served
  · rw [answer_eq] at answered
    rcases served : m.serve lightning (supply.source n) call with ⟨r | a, m'⟩
    · have same := Mint.serve_refused (congrArg Prod.fst served)
      rw [served] at answered same
      cases answered
      cases same
      exact refused _ _
    · rw [served] at answered
      cases answered

/-- A keyset that the mint has published is taken in; one of that name that was there is the
same. -/
theorem ends_addKeyset {x : Scene S (Mint S × Nat)} {k : Keyset S}
    (published : x.Faces → x.mint.1.keyset k.id = .ok k) :
    (supply.world lightning).Ends (Operation.askStore (.addKeyset k)) x
      (fun _ y => x.Calm y ∧ (x.Faces → y.Stored k)) (fun _ y => x.Calm y) := by
  refine (ends_learn k x).mono ?_ ?_
  · rintro _ _ ⟨-, rfl⟩
    refine ⟨⟨⟨Store.books_learn _ k, rfl, rfl⟩, rfl, fun faces => ⟨faces.sound, fun k' mem => ?_⟩⟩,
      fun faces => ⟨published faces, ?_⟩⟩
    · obtain mem | rfl := Store.mem_keysets_learn mem
      · exact faces.registered k' mem
      · exact published faces
    · show (x.wallet.store.learn k).keyset? k.id = some k
      rw [Store.keyset?_learn, if_pos rfl]
      rcases stored : x.wallet.store.keyset? k.id with _ | other
      · rfl
      · -- The keyset that is stored under the name has been published, like this one.
        obtain ⟨there, same⟩ := faces.stored stored
        have published := published faces
        rw [← same, there.published] at published
        exact congrArg some (Except.ok.inj published)
  · rintro _ _ ⟨-, rfl⟩
    exact refl _

theorem ends_fetchKeys (x : Scene S (Mint S × Nat)) :
    (supply.world lightning).Ends Wallet.fetchKeys x
      (fun k y => x.Calm y ∧ (x.Faces → y.Stored k)) (fun _ y => x.Calm y) := by
  refine .seq (ends_ask (fun source k m n served => ?_) fun _ n => .served x n)
  obtain ⟨current, same⟩ := Prod.mk.inj served
  cases same
  have asked := Scene.Calm.served x n
  refine .guard (fun _ => asked) fun _ => ?_
  refine .seq ((ends_addKeyset (x := { x with mint := (x.mint.1, n) }) fun faces =>
    faces.sound.keyset_of_current current).mono ?_ fun _ y added => asked.trans added)
  rintro _ y ⟨added, stored⟩
  refine .seq (.askMemory (.pure ⟨?_, fun faces => ?_⟩))
  · exact asked.trans (added.trans (.withMemory y _))
  · have stored := stored (asked.faces faces)
    exact ⟨stored.published, stored.stored⟩

theorem ends_fetchKeysOf (id : KeysetId) (x : Scene S (Mint S × Nat)) :
    (supply.world lightning).Ends (Wallet.fetchKeysOf id) x (fun _ y => x.Calm y)
      (fun _ y => x.Calm y) := by
  rcases found : x.wallet.store.keyset? id with _ | k
  · refine .seq (.askStore (fun known store called => ?_) fun _ _ called => nomatch called)
    obtain ⟨known, same⟩ := Prod.mk.inj called
    cases known.symm.trans (congrArg Except.ok found)
    cases same
    refine .seq (ends_ask (fun source k m n served => ?_) fun _ n => .served x n)
    obtain ⟨published, same⟩ := Prod.mk.inj served
    cases same
    have asked := Scene.Calm.served x n
    refine .guard (fun _ => asked) fun _ => ?_
    refine .seq ((ends_addKeyset fun _ => ?_).mono (fun _ y added => ?_)
      fun _ y added => asked.trans added)
    · exact (Mint.id_of_keyset published).symm ▸ published
    · exact .pure (asked.trans added.1)
  · refine (ends_fetchKeysOf_stored found).mono ?_ fun _ _ h => h.elim
    rintro _ y ⟨-, rfl⟩
    exact refl y

/-- Before a mint of one's own, looking things up is calm. -/
theorem registers_calm : (supply.world lightning).Registers Scene.Calm where
  remembered := .withMemory
  told call tells x := by
    refine ends_ask (fun source answer m n served => ?_) fun _ n => .served x n
    have same : m = x.mint.1 := by
      cases call <;> first | exact tells.elim | exact (congrArg Prod.snd served).symm
    rw [same]
    exact .served x n
  fetchKeys x := (ends_fetchKeys x).mono (fun _ _ h => h.1) fun _ _ h => h
  fetchKeysOf := ends_fetchKeysOf

/-- The current keyset is stored when it is needed. -/
theorem ends_currentKeyset (x : Scene S (Mint S × Nat)) :
    (supply.world lightning).Ends Wallet.currentKeyset x
      (fun k y => x.Calm y ∧ (x.Faces → y.Stored k)) (fun _ y => x.Calm y) := by
  refine .seq ((ends_cachedCurrent x).mono ?_ fun _ _ h => h.elim)
  rintro cached y ⟨rfl, known⟩
  cases cached with
  | none => exact ends_fetchKeys y
  | some k =>
    obtain ⟨-, found⟩ := Scene.stored_of_known known.symm
    exact .pure ⟨refl y, fun faces => (faces.stored found).1⟩

end World

/-! ## The states of proofs -/

/-- What one's own mint says is spent is what it has taken. -/
theorem World.ends_checkState {supply : Supply S} {lightning : Lightning} (proofs : List (Proof S))
    (x : Scene S (Mint S × Nat)) :
    (supply.world lightning).Ends (Wallet.checkState proofs) x
      (fun states y => x.Calm y ∧ List.Forall₂ (fun p s => ∃ z, p.y = .ok z ∧
        (s.isSpent = true → z ∈ x.mint.1.spent)) proofs states) (fun _ y => x.Calm y) := by
  refine .seq (.lift (fun ys points => ?_) fun _ _ => refl x)
  refine .seq (ends_ask (fun source answer m n served => ?_) fun _ n => .served x n)
  obtain ⟨told, same⟩ := Prod.mk.inj served
  cases told
  cases same
  refine .lift (fun states taken => ⟨.served x n, ?_⟩) fun _ _ => .served x n
  have both := forall₂_comp (mapM_eq_ok.1 (mapError_eq_ok.1 points))
    (takeStates_statesByPoint.1 taken).2
  refine both.imp fun p s ⟨z, point, found⟩ => ⟨z, point, fun spent => ?_⟩
  obtain ⟨mem, same⟩ := latest_eq_some found
  obtain ⟨z', -, rfl⟩ := List.mem_map.1 mem
  obtain rfl : z' = z := same
  by_contra unspent
  simp [ProofState.isSpent, unspent] at spent

end Chaumian.Wallet
