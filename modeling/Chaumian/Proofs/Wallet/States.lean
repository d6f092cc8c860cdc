import Chaumian.Proofs.Wallet.Registry

/-!
# The states of proofs

A mint that is asked for the states of proofs answers with a list in some order. The wallet reads it
as a table, in which the last of several states for one point counts (`latest`), and takes each state
out of the table for the proof that it is about. So a state is used once: `takeStates_eq_ok` says
that the states of points can be taken exactly if each of them has one and no point is asked for
twice.
-/

namespace Chaumian.Wallet

variable {S : Suite} {τ : Type}

/-- The state that counts for a point: of several ones, the last. -/
def latest (states : List (ProofState S)) (y : S.Point) : Option (ProofState S) :=
  states.reverse.find? (·.y = y)

theorem find?_statesByPoint (states : List (ProofState S)) (y : S.Point) :
    (statesByPoint states).find? (·.y = y) = latest states y := by
  unfold statesByPoint latest
  -- The state that was put in last is the first one to be found from behind.
  induction states using List.reverseRecOn with
  | nil => rfl
  | append_singleton rest s ih =>
    rw [List.foldl_append, List.foldl_cons, List.foldl_nil, Store.find?_put, ih,
      List.reverse_append, List.reverse_singleton, List.singleton_append, List.find?_cons]
    by_cases here : s.y = y
    · rw [if_pos here, decide_eq_true here]
    · rw [if_neg here, decide_eq_false here]

theorem latest_eq_some {states : List (ProofState S)} {y : S.Point} {s : ProofState S}
    (found : latest states y = some s) : s ∈ states ∧ s.y = y :=
  ⟨List.mem_reverse.1 (List.mem_of_find?_eq_some found), by simpa using List.find?_some found⟩

/-- In a table with one state for each point it does not matter where a state stands. -/
theorem latest_of_nodup {states : List (ProofState S)} (distinct : (states.map (·.y)).Nodup)
    {s : ProofState S} (mem : s ∈ states) : latest states s.y = some s := by
  refine find?_of_nodup ?_ (List.mem_reverse.2 mem)
  rw [List.map_reverse]
  exact List.nodup_reverse.2 distinct

/-- What has been taken out of a table for one point is not missed for another one. -/
theorem find?_filter_ne {states : List (ProofState S)} {y z : S.Point} (apart : z ≠ y) :
    (states.filter (·.y ≠ y)).find? (·.y = z) = states.find? (·.y = z) := by
  rw [List.find?_filter]
  congr 1
  funext s
  by_cases here : s.y = z
  · simp [here, apart]
  · simp [here]

theorem find?_filter_self (states : List (ProofState S)) (y : S.Point) :
    (states.filter (·.y ≠ y)).find? (·.y = y) = none := by
  rw [List.find?_filter]
  simp

/-- For other points the same states are found when those of one point have been taken. -/
theorem forall₂_find?_filter_ne {states taken : List (ProofState S)} {y : S.Point}
    {ys : List S.Point} (new : y ∉ ys) :
    List.Forall₂ (fun z s => (states.filter (·.y ≠ y)).find? (·.y = z) = some s) ys taken ↔
      List.Forall₂ (fun z s => states.find? (·.y = z) = some s) ys taken := by
  rw [List.forall₂_iff_zip, List.forall₂_iff_zip]
  refine and_congr_right fun _ => ?_
  have same {z : S.Point} {s : ProofState S} (mem : (z, s) ∈ ys.zip taken) :
      (states.filter (·.y ≠ y)).find? (·.y = z) = states.find? (·.y = z) :=
    find?_filter_ne fun here => new (here ▸ (List.of_mem_zip mem).1)
  exact ⟨fun h z s mem => same mem ▸ h mem, fun h z s mem => (same mem).trans (h mem)⟩

/-- States are taken exactly if they are all there and none of them is needed twice. -/
theorem takeStates_eq_ok {ys : List S.Point} {states taken : List (ProofState S)} :
    takeStates ys states = .ok taken ↔
      ys.Nodup ∧ List.Forall₂ (fun y s => states.find? (·.y = y) = some s) ys taken := by
  induction ys generalizing states taken with
  | nil =>
    rw [takeStates, List.forall₂_nil_left_iff]
    exact ⟨fun h => ⟨.nil, (Except.ok.inj h).symm⟩, fun h => congrArg _ h.2.symm⟩
  | cons y rest ih =>
    rw [takeStates, List.nodup_cons, List.forall₂_cons_left_iff]
    constructor
    · intro h
      rcases found : states.find? (·.y = y) with _ | s
      · rw [found] at h
        cases h
      · rw [found] at h
        obtain ⟨others, later, h⟩ := bind_eq_ok.1 h
        cases h
        obtain ⟨distinct, each⟩ := ih.1 later
        have new : y ∉ rest := by
          intro again
          obtain ⟨s', -, there⟩ := exists_of_mem_forall₂ each.flip again
          cases (find?_filter_self states y).symm.trans there
        exact ⟨⟨new, distinct⟩, s, others, found, (forall₂_find?_filter_ne new).1 each, rfl⟩
    · rintro ⟨⟨new, distinct⟩, s, others, found, each, rfl⟩
      rw [found]
      exact bind_eq_ok.2 ⟨others, ih.2 ⟨distinct, (forall₂_find?_filter_ne new).2 each⟩, rfl⟩

theorem takeStates_eq_error {ys : List S.Point} {states : List (ProofState S)} {e : Error S}
    (h : takeStates ys states = .error e) :
    ∃ y ∈ ys, e = .malformedResponse s!"no state for proof {Key.publicText S y}" := by
  induction ys generalizing states with
  | nil => cases h
  | cons y rest ih =>
    rw [takeStates] at h
    split at h
    · cases h
      exact ⟨y, List.mem_cons_self, rfl⟩
    · rcases later : takeStates rest (states.filter (·.y ≠ y)) with e' | others
      · rw [later] at h
        cases h
        obtain ⟨z, mem, same⟩ := ih later
        exact ⟨z, List.mem_cons_of_mem _ mem, same⟩
      · rw [later] at h
        cases h

/-! ## What is made of an answer -/

variable {ys : List S.Point} {states taken : List (ProofState S)}

/-- Of an answer in any order, and with anything else in it, the state that counts for each point. -/
theorem takeStates_statesByPoint :
    takeStates ys (statesByPoint states) = .ok taken ↔
      ys.Nodup ∧ List.Forall₂ (fun y s => latest states y = some s) ys taken := by
  rw [takeStates_eq_ok]
  simp only [find?_statesByPoint]

/-- An answer of one state for each point, in any order, is put in the order of the points. -/
theorem takeStates_of_perm (distinct : ys.Nodup) {state : S.Point → MintState}
    (complete : states.Perm (ys.map fun y => ⟨y, state y⟩)) :
    takeStates ys (statesByPoint states) = .ok (ys.map fun y => ⟨y, state y⟩) := by
  have points : (states.map (·.y)).Perm ys := by
    have same := complete.map (·.y)
    rw [List.map_map] at same
    exact same.trans (.of_eq (List.map_id ys))
  refine takeStates_statesByPoint.2 ⟨distinct, List.forall₂_map_right_iff.2 ?_⟩
  refine List.forall₂_same.2 fun y mem => ?_
  exact latest_of_nodup (points.nodup_iff.2 distinct)
    (complete.mem_iff.2 (List.mem_map_of_mem (f := fun y => (⟨y, state y⟩ : ProofState S)) mem))

/-- A wallet asks for all states at once, and makes of the answer what can be made of it. -/
theorem World.perform_checkState {world : World S τ} {x : Scene S τ} {proofs : List (Proof S)}
    (points : Proof.ys proofs = .ok ys) {response : CheckStateResponse S} {mint : τ}
    (answered : world.answer (.checkState ⟨ys⟩) x.mint = (.ok response, mint)) :
    world.perform (checkState proofs) x =
      (takeStates ys (statesByPoint response.states), { x with mint }) := by
  refine Ends.perform_eq (.seq (.known (mapError_eq_ok.2 points) (.seq (.askMint
    (fun told mint' told' => ?_) fun e mint' told' => ?_))))
  · cases answered.symm.trans told'
    exact .lift (fun _ taken => congrArg (·, _) taken.symm) fun _ missing =>
      congrArg (·, _) missing.symm
  · cases answered.symm.trans told'

/-- Proofs are archived, whatever is stored of them. -/
theorem World.ends_markSpent {world : World S τ} {x : Scene S τ} {meltId : Option String}
    {Q : Unit → Scene S τ → Prop} {E : Error S → Scene S τ → Prop}
    (ok : Q () (x.withStore (x.wallet.store.exchange [] ys meltId))) :
    world.Ends (Operation.askStore (.markSpent ys meltId)) x Q E := by
  refine .askStore (fun _ store called => ?_) fun e store called => ?_
  all_goals
    rw [StoreCall.perform, Store.markSpent_eq] at called
    cases called
  exact ok

end Chaumian.Wallet
