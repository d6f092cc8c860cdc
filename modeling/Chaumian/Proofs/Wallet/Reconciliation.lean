import Chaumian.Proofs.Wallet.Calls
import Chaumian.Proofs.Wallet.Session

/-!
# A wallet that asks how things are

What a wallet learns of the states of proofs does not depend on the order of the mint's answer, nor
on anything else that is in it (`states_told`). It takes no answer, though, for a list of proofs in
which one occurs twice, even if the mint has told the state of each of them (`told_of_one_twice`).

The proofs that the mint reports spent are archived, wherever they stand among the others and
whether they are set aside or not; all other rows stay as they are (`archived_as_told`).
-/

namespace Chaumian.Wallet

variable {S : Suite} {τ : Type} {proofs : List (Proof S)} {ys : List S.Point}

/-! ## Asking -/

/-- **What a wallet learns of the states of proofs.** If the mint tells one state for each of some
different proofs, in any order, these are the states learnt, in the order of the proofs. In general
the last state for a proof counts, and states are learnt exactly if the proofs are different ones and
each of them has a state; otherwise the answer is refused for a proof whose state is missing or used
up. One's own mint tells of different proofs which it has taken. -/
theorem states_told (points : Proof.ys proofs = .ok ys) :
    (∀ {τ : Type} (world : World S τ) (x : Scene S τ) (response : CheckStateResponse S) (mint : τ),
      world.answer (.checkState ⟨ys⟩) x.mint = (.ok response, mint) →
        (∀ state : S.Point → MintState,
          response.states.Perm (ys.map fun y => ⟨y, state y⟩) → ys.Nodup →
            world.perform (checkState proofs) x =
              (.ok (ys.map fun y => ⟨y, state y⟩), { x with mint })) ∧
        (∀ states, world.perform (checkState proofs) x = (.ok states, { x with mint }) ↔
          ys.Nodup ∧ List.Forall₂ (fun y s => latest response.states y = some s) ys states) ∧
        (¬(ys.Nodup ∧ ∀ y ∈ ys, ∃ s ∈ response.states, s.y = y) →
          ∃ y ∈ ys, world.perform (checkState proofs) x =
            (.error (.malformedResponse s!"no state for proof {Key.publicText S y}"),
              { x with mint }))) ∧
    ∀ (supply : Supply S) (lightning : Lightning) (x : Scene S (Mint S × Nat)), ys.Nodup →
      (supply.world lightning).perform (checkState proofs) x =
        (.ok (ys.map fun y => ⟨y, if y ∈ x.mint.1.spent then .spent else .unspent⟩),
          { x with mint := (x.mint.1, x.mint.2 + 1) }) := by
  refine ⟨fun world x response mint answered => ?_, fun supply lightning x distinct => ?_⟩
  · rw [World.perform_checkState points answered]
    refine ⟨fun state complete distinct => ?_, fun states => ?_, fun incomplete => ?_⟩
    · rw [takeStates_of_perm distinct complete]
    · rw [Prod.mk.injEq, and_iff_left rfl]
      exact takeStates_statesByPoint
    · rcases missing : takeStates ys (statesByPoint response.states) with e | states
      · obtain ⟨y, mem, rfl⟩ := takeStates_eq_error missing
        exact ⟨y, mem, rfl⟩
      · obtain ⟨distinct, each⟩ := takeStates_statesByPoint.1 missing
        refine absurd ⟨distinct, fun y mem => ?_⟩ incomplete
        obtain ⟨s, -, found⟩ := exists_of_mem_forall₂ each.flip mem
        exact ⟨s, latest_eq_some found⟩
  · have answered : (supply.world lightning).answer (.checkState ⟨ys⟩) x.mint =
        (.ok (x.mint.1.checkState ⟨ys⟩), (x.mint.1, x.mint.2 + 1)) := rfl
    have told : (x.mint.1.checkState ⟨ys⟩).states =
        ys.map fun y => ⟨y, if y ∈ x.mint.1.spent then .spent else .unspent⟩ := by
      simp [Mint.checkState]
    rw [World.perform_checkState points answered, takeStates_of_perm distinct (.of_eq told)]

/-! ## Archiving -/

/-- Whether a proof is reported spent: by the last state for it, if there is one. -/
def reportedSpent (states : List (ProofState S)) (p : Proof S) : Bool :=
  match p.y with
  | .ok y => (latest states y).any (·.isSpent)
  | .error _ => false

theorem reportedSpent_of_y {states : List (ProofState S)} {p : Proof S} {y : S.Point}
    (point : p.y = .ok y) : reportedSpent states p = (latest states y).any (·.isSpent) := by
  rw [reportedSpent, point]

/-- Beside its own state, a proof is selected by what is reported of it. -/
theorem filter_zip_isSpent {states taken : List (ProofState S)}
    (each : List.Forall₂ (fun p s => reportedSpent states p = s.isSpent) proofs taken) :
    ((proofs.zip taken).filter fun (_, s) => s.isSpent).map (·.1) =
      proofs.filter (reportedSpent states) := by
  induction each with
  | nil => rfl
  | @cons p s proofs taken first _ ih =>
    rw [List.zip_cons_cons]
    cases spent : s.isSpent with
    | true =>
      rw [List.filter_cons_of_pos (by exact spent), List.filter_cons_of_pos (first.trans spent)]
      exact congrArg (p :: ·) ih
    | false =>
      rw [List.filter_cons_of_neg (by simp [spent]), List.filter_cons_of_neg (by simp [first, spent])]
      exact ih

/-- The points of the proofs that are reported spent. -/
theorem ys_filter_reportedSpent (points : Proof.ys proofs = .ok ys) (states : List (ProofState S)) :
    Proof.ys (proofs.filter (reportedSpent states)) =
      .ok (ys.filter fun y => (latest states y).any (·.isSpent)) := by
  refine mapM_eq_ok.2 (List.rel_filter (fun p y point => ?_) (mapM_eq_ok.1 points))
  exact iff_of_eq (congrArg (· = true) (reportedSpent_of_y point))

end Chaumian.Wallet

namespace Chaumian.Store

variable {S : Suite}

/-- The proofs of some points have been archived, and for no payment: each row of theirs that was
held has been, in its place, and nothing else has changed. -/
structure Archived (before : Store S) (ys : List S.Point) (after : Store S) : Prop where
  rows : after.proofs = before.proofs.map fun p =>
    if p.row.y ∈ ys ∧ !p.archived then ⟨{ p.row with status := .spent, meltId := none }, true⟩ else p
  held : after.held = before.held.filter (·.y ∉ ys)
  archive : ∀ row, row ∈ after.archive ↔ row ∈ before.archive ∨
    ∃ old ∈ before.held, old.y ∈ ys ∧ row = { old with status := .spent, meltId := none }
  keysets : after.keysets = before.keysets
  keysetIds : after.keysetIds = before.keysetIds
  invoices : after.invoices = before.invoices

theorem archived_exchange (store : Store S) (ys : List S.Point) :
    store.Archived ys (store.exchange [] ys none) where
  rows := List.append_nil _
  held := by rw [held_exchange, List.append_nil]
  archive _ := mem_archive_exchange
  keysets := rfl
  keysetIds := rfl
  invoices := rfl

end Chaumian.Store

namespace Chaumian.Wallet

variable {S : Suite} {τ : Type} {world : World S τ} {x y : Scene S τ} {proofs gone : List (Proof S)}
  {ys : List S.Point}

namespace World

/-- Without asking, all proofs are archived. -/
theorem perform_invalidate_unchecked (points : Proof.ys proofs = .ok ys) (x : Scene S τ) :
    world.perform (invalidate proofs false) x =
      (.ok proofs, x.withStore (x.wallet.store.exchange [] ys none)) := by
  exact Ends.perform_eq (.seq (.pure (.seq (.known (mapError_eq_ok.2 points)
    (.seq (ends_markSpent (.pure rfl)))))))

/-- An answer from which all states could be taken. -/
theorem perform_invalidate_checked (points : Proof.ys proofs = .ok ys)
    {response : CheckStateResponse S} {mint : τ} {states : List (ProofState S)}
    (answered : world.answer (.checkState ⟨ys⟩) x.mint = (.ok response, mint))
    (taken : takeStates ys (statesByPoint response.states) = .ok states) :
    world.perform (invalidate proofs true) x =
      (.ok (proofs.filter (reportedSpent response.states)), Scene.withStore { x with mint }
        (x.wallet.store.exchange []
          (ys.filter fun y => (latest response.states y).any (·.isSpent)) none)) := by
  have each := forall₂_comp (mapM_eq_ok.1 points) (takeStates_statesByPoint.1 taken).2
  have told : List.Forall₂ (fun p s => reportedSpent response.states p = s.isSpent) proofs states :=
    each.imp fun p s ⟨y, point, found⟩ => by rw [reportedSpent_of_y point, found]; rfl
  have selected := filter_zip_isSpent told
  have learnt : world.Ends (checkState proofs) x (fun told y => told = states ∧ y = { x with mint })
      fun _ _ => False := by
    rw [Ends, perform_checkState points answered, taken]
    exact ⟨rfl, rfl⟩
  refine Ends.perform_eq (.seq (learnt.mono ?_ fun _ _ impossible => impossible.elim))
  rintro _ _ ⟨rfl, rfl⟩
  rw [selected]
  have points := ys_filter_reportedSpent points response.states
  exact .seq (.pure (.seq (.known (mapError_eq_ok.2 points) (.seq (ends_markSpent (.pure rfl))))))

/-- Nothing is archived without an answer that tells the states of all the proofs. -/
theorem ends_invalidate_checked (points : Proof.ys proofs = .ok ys) (x : Scene S τ) :
    world.Ends (invalidate proofs true) x
      (fun _ _ => ∃ response mint states,
        world.answer (.checkState ⟨ys⟩) x.mint = (.ok response, mint) ∧
          takeStates ys (statesByPoint response.states) = .ok states)
      fun _ _ => True := by
  have learnt : world.Ends (checkState proofs) x
      (fun states _ => ∃ response mint,
        world.answer (.checkState ⟨ys⟩) x.mint = (.ok response, mint) ∧
          takeStates ys (statesByPoint response.states) = .ok states)
      fun _ _ => True :=
    .seq (.known (mapError_eq_ok.2 points) (.seq (.askMint
      (fun response mint answered =>
        .lift (fun _ taken => ⟨response, mint, answered, taken⟩) fun _ _ => trivial)
      fun _ _ _ => trivial)))
  refine .bind learnt fun states y ⟨response, mint, answered, taken⟩ => ?_
  exact ends_iff.2 ⟨fun _ _ _ => ⟨response, mint, states, answered, taken⟩, fun _ _ _ => trivial⟩

end World

/-- **What is archived when proofs are invalidated.** With a check, the mint is asked once, for the
states of these proofs; those of them are archived that it reports spent, and they are the answer, in
the order in which they were given. Without one they are all archived and the mint is asked nothing.
Archived are the rows that are held, free or set aside; every other row, and all else that is stored,
is as before, and so is everything but the store. -/
theorem archived_as_told (points : Proof.ys proofs = .ok ys) (world : World S τ) (x : Scene S τ) :
    (∀ gone y, world.perform (invalidate proofs true) x = (.ok gone, y) →
      ∃ response mint store, world.answer (.checkState ⟨ys⟩) x.mint = (.ok response, mint) ∧
        world.sent (invalidate proofs true) x = [.checkState ⟨ys⟩] ∧
        gone = proofs.filter (reportedSpent response.states) ∧
        y = Scene.withStore { x with mint } store ∧
        x.wallet.store.Archived
          (ys.filter fun z => (latest response.states z).any (·.isSpent)) store) ∧
    ∃ store, world.perform (invalidate proofs false) x = (.ok proofs, x.withStore store) ∧
      world.sent (invalidate proofs false) x = [] ∧ x.wallet.store.Archived ys store := by
  refine ⟨fun gone y ran => ?_, ?_⟩
  · obtain ⟨response, mint, states, answered, taken⟩ :=
      (World.ends_invalidate_checked points x).ok ran
    have done := World.perform_invalidate_checked points answered taken
    cases ran.symm.trans done
    have sent := World.sent_of_logged (World.perform_invalidate_checked (x := x.logging []) points
      (World.answer_logged answered []) taken)
    exact ⟨response, mint, _, answered, sent, rfl, rfl, Store.archived_exchange _ _⟩
  · have done : world.logged.perform (invalidate proofs false) (x.logging []) = _ :=
      World.perform_invalidate_unchecked points _
    exact ⟨_, World.perform_invalidate_unchecked points x, World.sent_of_logged done,
      Store.archived_exchange _ _⟩

end Chaumian.Wallet

namespace Chaumian.Sample

open Wallet

/-- A mint that answers with these states, whichever proofs it is asked for, and refuses all else. -/
def teller (states : List (ProofState suite)) : World suite Unit where
  answer
    | .checkState _, _ => (.ok ⟨states⟩, ())
    | _, _ => (.error .keysetNotFound, ())
  draw n := (secret n, scalar n)
  meltId n := s!"payment {n}"

/-- Two states are told in the wrong order, or one of them is not told; a new mint has taken
neither proof. -/
theorem states_told_of_two :
    ((teller [⟨point 1, .pending⟩, ⟨point 0, .spent⟩]).perform
      (checkState [proof 1 0, proof 2 1]) (scene [])).1 =
        .ok [⟨point 0, .spent⟩, ⟨point 1, .pending⟩] ∧
    (∃ y ∈ [point 0, point 1], ((teller [⟨point 1, .pending⟩]).perform
      (checkState [proof 1 0, proof 2 1]) (scene [])).1 =
        .error (.malformedResponse s!"no state for proof {Key.publicText suite y}")) ∧
    ((supply.world clock).perform (checkState [proof 1 0, proof 2 1]) beginning).1 =
      .ok [⟨point 0, .unspent⟩, ⟨point 1, .unspent⟩] := by
  have points : Proof.ys [proof 1 0, proof 2 1] = .ok [point 0, point 1] := by decide +kernel
  have distinct : [point 0, point 1].Nodup := by decide
  obtain ⟨told, own⟩ := states_told points
  refine ⟨?_, ?_, ?_⟩
  · obtain ⟨learnt, -, -⟩ := told (teller [⟨point 1, .pending⟩, ⟨point 0, .spent⟩]) (scene []) _ () rfl
    have learnt := learnt (fun y => if y = point 0 then .spent else .pending) (by decide) distinct
    exact congrArg Prod.fst learnt
  · obtain ⟨-, -, refused⟩ := told (teller [⟨point 1, .pending⟩]) (scene []) _ () rfl
    obtain ⟨y, mem, refused⟩ := refused (by decide)
    exact ⟨y, mem, congrArg Prod.fst refused⟩
  · exact congrArg Prod.fst (own supply clock beginning distinct)

/-- A mint that is asked twice for one proof tells its state twice, and the wallet does not take the
answer. -/
theorem told_of_one_twice :
    Proof.ys [proof 1 0, proof 1 0] = .ok [point 0, point 0] ∧
    ((supply.world clock).answer (.checkState ⟨[point 0, point 0]⟩) beginning.mint).1 =
      .ok ⟨[⟨point 0, .unspent⟩, ⟨point 0, .unspent⟩]⟩ ∧
    ((supply.world clock).perform (checkState [proof 1 0, proof 1 0]) beginning).1 =
      .error (.malformedResponse s!"no state for proof {Key.publicText suite (point 0)}") := by
  exact ⟨by decide +kernel, by decide +kernel, by decide +kernel⟩

/-- A wallet that holds proofs of the first three letters, one of them set aside, and has archived one
of the fourth for a payment. -/
def keeping : Scene suite Unit :=
  (scene []).withStore ⟨[keyset], [keyset.id], [],
    [⟨⟨proof 1 0, point 0, .unspent, none, none⟩, false⟩,
      ⟨⟨proof 2 1, point 1, .reserved, none, none⟩, false⟩,
      ⟨⟨proof 4 2, point 2, .unspent, none, none⟩, false⟩,
      ⟨⟨proof 8 3, point 3, .spent, none, some "payment"⟩, true⟩]⟩

/-- The proofs of that wallet and one that it does not have. -/
def various : List (Proof suite) := [proof 1 0, proof 2 1, proof 4 2, proof 8 3, proof 1 5]

/-- All of them are spent but the third. The states are in another order, there is one of a proof
that has not been asked for, and what is said of the second one at first is taken back at the end. -/
def correction : List (ProofState suite) :=
  [⟨point 5, .spent⟩, ⟨point 1, .unspent⟩, ⟨point 9, .spent⟩, ⟨point 3, .spent⟩,
    ⟨point 2, .unspent⟩, ⟨point 0, .spent⟩, ⟨point 1, .spent⟩]

/-- Two proofs are archived in addition to the one that was. Without a check, the third one is,
too. -/
theorem archived_as_told_of_various :
    (∃ store, (teller correction).perform (invalidate various true) keeping =
        (.ok [proof 1 0, proof 2 1, proof 8 3, proof 1 5], keeping.withStore store) ∧
      store.held.map (·.y) = [point 2] ∧
      (∀ row ∈ keeping.wallet.store.archive, row ∈ store.archive) ∧
      ⟨proof 2 1, point 1, .spent, none, none⟩ ∈ store.archive) ∧
    ∃ store, (teller correction).perform (invalidate various false) keeping =
        (.ok various, keeping.withStore store) ∧
      (teller correction).sent (invalidate various false) keeping = [] ∧ store.held = [] := by
  have points : Proof.ys various = .ok [point 0, point 1, point 2, point 3, point 5] := by
    decide +kernel
  obtain ⟨checked, store', unchecked, sent, all⟩ :=
    archived_as_told points (teller correction) keeping
  constructor
  · obtain ⟨gone, ran⟩ := World.perform_of_isOk (teller correction) (invalidate various true) keeping
      (by decide +kernel)
    obtain ⟨response, mint, store, answered, -, told, same, archived⟩ := checked _ _ ran
    cases answered
    have reported : various.filter (reportedSpent correction) =
        [proof 1 0, proof 2 1, proof 8 3, proof 1 5] := by decide +kernel
    rw [same, told.trans reported] at ran
    refine ⟨store, ran, ?_, fun row old => ?_, ?_⟩
    · rw [archived.held]
      decide +kernel
    · exact (archived.archive row).2 (.inl old)
    · refine (archived.archive _).2 (.inr ⟨⟨proof 2 1, point 1, .reserved, none, none⟩, ?_, ?_, rfl⟩)
      · decide +kernel
      · decide +kernel
  · refine ⟨store', unchecked, sent, ?_⟩
    rw [all.held]
    decide +kernel

end Chaumian.Sample
