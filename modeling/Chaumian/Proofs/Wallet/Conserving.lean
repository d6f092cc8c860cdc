import Chaumian.Proofs.Wallet.Handover

/-!
# Exchanging proofs conserves their value

An exchange that succeeds has conserved the value of the proofs that were given, whatever the mint
has answered. The new proofs are of the digits of what was asked for and of what was left, so that no
value passes between the two sides; the store has the rows of the given proofs archived, those of the
new proofs behind the others, and is otherwise as before but for keysets that it has taken in on the
way (`Store.Renewed`).

`value_conserved` says so of splitting proofs, of redeeming and of receiving. That the store may take
in a keyset cannot be left out: `newcomer_takes_in` is an exchange by a wallet that knows no keyset.
-/

namespace Chaumian

namespace Store

variable {S : Suite} {before after later : Store S} {more : List (Keyset S)}

/-! ## Taking in keysets -/

/-- A store with keysets taken in behind those it has. -/
def withKeysets (store : Store S) (more : List (Keyset S)) : Store S :=
  { store with
    keysets := store.keysets ++ more
    keysetIds := store.keysetIds ++ more.map (·.id) }

/-- Some keysets, each the one of its identifier, have been taken in by a store that had none under
these. -/
structure TakenIn (before : Store S) (more : List (Keyset S)) (after : Store S) : Prop where
  keysets : after.keysets = before.keysets ++ more
  ids : after.keysetIds = before.keysetIds ++ more.map (·.id)
  new : ∀ k ∈ more, k.verifies = true ∧ before.keyset? k.id = none

theorem TakenIn.nothing (keysets : after.keysets = before.keysets)
    (ids : after.keysetIds = before.keysetIds) : before.TakenIn [] after :=
  ⟨by rw [keysets, List.append_nil], by rw [ids, List.map_nil, List.append_nil], nofun⟩

theorem TakenIn.trans {others : List (Keyset S)} (first : before.TakenIn more after)
    (second : after.TakenIn others later) : before.TakenIn (more ++ others) later := by
  constructor
  · rw [second.keysets, first.keysets, List.append_assoc]
  · rw [second.ids, first.ids, List.map_append, List.append_assoc]
  · refine List.forall_mem_append.2 ⟨first.new, fun k mem => ?_⟩
    obtain ⟨verified, unknown⟩ := second.new k mem
    rw [keyset?, first.keysets, List.find?_append, Option.or_eq_none_iff] at unknown
    exact ⟨verified, unknown.1⟩

theorem exists_takenIn_learn {k : Keyset S} (verified : k.verifies = true) :
    ∃ more, before.TakenIn more (before.learn k) := by
  unfold learn
  split
  · exact ⟨[], .nothing rfl rfl⟩
  · rename_i unknown
    refine ⟨[k], rfl, rfl, List.forall_mem_singleton.2 ⟨verified, ?_⟩⟩
    simpa using unknown

/-- A store is known from its books and its keysets. -/
theorem TakenIn.eq_withKeysets (taken : before.TakenIn more after)
    (books : after.books = before.books) : after = before.withKeysets more := by
  obtain ⟨keysets, ids, -⟩ := taken
  obtain ⟨_, _, invoices, proofs⟩ := after
  cases keysets
  cases ids
  obtain ⟨rfl, rfl⟩ := Prod.mk.inj books
  rfl

/-- What an exchange does to the books depends on nothing but these. -/
theorem books_exchange (books : after.books = before.books) (added : List (ProofRow S))
    (removed : List S.Point) (meltId : Option String) :
    (after.exchange added removed meltId).books = (before.exchange added removed meltId).books :=
  congrArg (fun b => ((b.1.map fun p =>
    if p.row.y ∈ removed ∧ !p.archived then StoredProof.archive meltId p else p) ++
      added.map (⟨·, false⟩), b.2)) books

/-- Proofs were given for new ones: their rows are archived, those of the new ones are unspent, and
nothing else is different but that keysets may have been taken in. -/
def Renewed (before : Store S) (given new : List (Proof S)) (after : Store S) : Prop :=
  ∃ (ys : List S.Point) (rows : List (ProofRow S)) (more : List (Keyset S)),
    Proof.ys given = .ok ys ∧ ProofRow.ofProofs new .unspent none = .ok rows ∧
    before.TakenIn more after ∧ after = (before.exchange rows ys none).withKeysets more

end Store

namespace Wallet

variable {S : Suite} {τ : Type} {world : World S τ} {x y z : Scene S τ}

/-- Whatever is asked of a store, all that it does to its keysets is to take some in. -/
theorem StoreCall.takenIn_perform (call : StoreCall S) (store : Store S) :
    ∃ more, store.TakenIn more (call.perform store).2 := by
  obtain ⟨proofs, done⟩ | ⟨k, verified, done⟩ | ⟨invoice, -, done⟩ := call.perform_parts store
  · rw [done]
    exact ⟨[], .nothing rfl rfl⟩
  · rw [done]
    exact Store.exists_takenIn_learn verified
  · rw [done]
    exact ⟨[], .nothing rfl rfl⟩

/-- From one scene to another one the store has at most taken in keysets. -/
def Scene.TakesIn (x y : Scene S τ) : Prop := ∃ more, x.wallet.store.TakenIn more y.wallet.store

instance : IsPreorder (Scene S τ) Scene.TakesIn where
  refl _ := ⟨[], .nothing rfl rfl⟩
  trans _ _ _ := fun ⟨_, first⟩ ⟨_, second⟩ => ⟨_, first.trans second⟩

/-- No operation does anything else to the keysets of a store. -/
theorem World.takesIn_perform {ε α : Type} {op : ExceptT ε (Steps S) α} {outcome : Except ε α}
    (ran : world.perform op x = (outcome, y)) : x.TakesIn y := by
  have step (request : Request S) (x : Scene S τ) : x.TakesIn (world.meet request x).2 := by
    cases request with
    | store call => exact call.takenIn_perform x.wallet.store
    | memory call | mint call => exact ⟨[], .nothing rfl rfl⟩
    | fresh call => cases call <;> exact ⟨[], .nothing rfl rfl⟩
  have ends := World.ends_iff.1 (World.Within.of_meet step op x)
  cases outcome with
  | ok a => exact ends.1 a y ran
  | error e => exact ends.2 e y ran

/-! ## Exchanges -/

namespace World

/-- An exchange of proofs has conserved their value: what is sent is the amount and what is kept is
the rest, both in ascending powers of two with secrets drawn for them, and if these are new the store
holds exactly that in place of what was given. -/
structure Conserved (world : World S τ) (proofs : List (Proof S)) (amount : Nat) (x : Scene S τ)
    (keep send : List (Proof S)) (y : Scene S τ) : Prop where
  within : amount ≤ Proof.exactTotal proofs
  kept : keep.map (·.amount.toNat) = Denominations.binaryParts (Proof.exactTotal proofs - amount)
  sent : send.map (·.amount.toNat) = Denominations.binaryParts amount
  secrets : (keep ++ send).map (·.secret) =
    (List.range' x.drawn (keep ++ send).length).map world.secret
  renewed : (∀ ys, Proof.ys proofs = .ok ys →
      world.Fresh x.drawn y.drawn (knownPoints x.wallet.store ys)) →
    x.wallet.store.Renewed proofs (keep ++ send) y.wallet.store

theorem Exchanged.conserved {proofs : List (Proof S)} {amount : Amount}
    {parts : List (Proof S) × List (Proof S)} (same : x.Undisturbed z)
    (made : world.Exchanged .unspent proofs amount z parts y) (takes : x.TakesIn y) :
    world.Conserved proofs amount.toNat x parts.1 parts.2 y := by
  obtain ⟨d, total, rest, counted, left, kept, sent⟩ := made.amounts
  obtain ⟨within, left⟩ := Amount.toNat_of_sub? left
  have kept := Denominations.map_toNat_decompose kept
  have sent := Denominations.map_toNat_decompose sent
  rw [List.map_map] at kept sent
  rw [← Proof.exactTotal_of_total counted] at within left
  constructor
  case within => exact within
  case kept => exact left ▸ kept
  case sent => exact sent
  case secrets => exact same.drawn ▸ made.secrets
  case renewed =>
    intro fresh
    obtain ⟨ys, -, -, -, points, -⟩ := made.stored
    have fresh : world.Fresh z.drawn y.drawn (knownPoints z.wallet.store ys) := by
      rw [same.drawn, knownPoints_of_books same.books]
      exact fresh ys points
    obtain ⟨keptRows, sentRows, store, keptMade, sentMade, -, books, after⟩ :=
      made.exchange_eq points fresh
    obtain ⟨more, taken⟩ := takes
    refine ⟨ys, keptRows ++ sentRows, more, points, ?_, taken, ?_⟩
    · exact mapM_eq_ok.2 (List.rel_append (mapM_eq_ok.1 keptMade) (mapM_eq_ok.1 sentMade))
    · have exchanged : (x.wallet.store.exchange (keptRows ++ sentRows) ys none).TakenIn more
          y.wallet.store := ⟨taken.keysets, taken.ids, taken.new⟩
      refine exchanged.eq_withKeysets ?_
      rw [after]
      exact Store.books_exchange (books.trans same.books) _ _ _

/-- Where all of the proofs are to be sent, nothing is kept. -/
theorem Conserved.nothing_kept {proofs keep send : List (Proof S)} {total : Amount}
    (counted : Proof.total proofs = .ok total)
    (h : world.Conserved proofs total.toNat x keep send y) : keep = [] := by
  have none := h.kept
  rw [Proof.exactTotal_of_total counted, Nat.sub_self] at none
  exact List.map_eq_nil_iff.1 none

end World

/-- **Exchanging proofs conserves their value**, whatever the mint answers: splitting them, redeeming
them, and receiving them in a token. -/
theorem value_conserved (settings : Settings) (x : Scene S τ) :
    (∀ proofs amount keep send y,
      world.perform (split settings proofs amount) x = (.ok (keep, send), y) →
      world.Conserved proofs amount.toNat x keep send y) ∧
    (∀ proofs redeemed y, world.perform (redeem settings proofs) x = (.ok redeemed, y) →
      Proof.exactTotal redeemed = Proof.exactTotal proofs ∧
      world.Conserved proofs (Proof.exactTotal proofs) x [] redeemed y) ∧
    ∀ text total y, world.perform (receive settings text) x = (.ok total, y) →
      ∃ (token : Token S) (redeemed : List (Proof S)), Token.ofText S text = .ok token ∧
        total.toNat = Proof.exactTotal token.proofs ∧
        Proof.exactTotal redeemed = Proof.exactTotal token.proofs ∧
        world.Conserved token.proofs (Proof.exactTotal token.proofs) x [] redeemed y := by
  -- Redeeming and receiving are exchanges of all of the proofs.
  have whole {proofs keep redeemed : List (Proof S)} {total : Amount} {y z : Scene S τ}
      (counted : Proof.total proofs = .ok total) (same : x.Undisturbed z)
      (made : world.Exchanged .unspent proofs total z (keep, redeemed) y) (takes : x.TakesIn y) :
      Proof.exactTotal redeemed = Proof.exactTotal proofs ∧
        world.Conserved proofs (Proof.exactTotal proofs) x [] redeemed y := by
    obtain ⟨d, _, _, -, -, -, sent⟩ := made.amounts
    have conserved := made.conserved same takes
    obtain rfl := conserved.nothing_kept counted
    rw [Proof.exactTotal_of_total counted]
    exact ⟨Denominations.exactSum_decompose sent, conserved⟩
  refine ⟨?_, ?_, ?_⟩
  · intro proofs amount keep send y ran
    have made := (World.ends_splitInto settings .unspent proofs amount x).ok ran
    exact made.conserved (refl x) (World.takesIn_perform ran)
  · intro proofs redeemed y ran
    obtain ⟨keep, total, z, counted, same, made⟩ := (World.ends_redeem settings proofs x).ok ran
    exact whole counted same made (World.takesIn_perform ran)
  · intro text total y ran
    obtain ⟨token, keep, redeemed, z, decoded, -, counted, same, made⟩ :=
      (World.ends_receive settings text x).ok ran
    obtain ⟨equal, conserved⟩ := whole counted same made (World.takesIn_perform ran)
    exact ⟨token, redeemed, decoded, (Proof.exactTotal_of_total counted).symm, equal, conserved⟩

end Wallet

namespace Sample

open Wallet

/-- A wallet that has done nothing, before the sample mint. What it draws are the letters from the
tenth on. -/
def newcomer : Scene suite (Mint suite × Nat) := ⟨.ofStore .default .empty, (mint, 0), 10, 0⟩

/-- What comes of its exchanging proofs of 12 for 3 and the rest. -/
def exchanging : Except (Wallet.Error suite) (List (Proof suite) × List (Proof suite)) ×
    Scene suite (Mint suite × Nat) :=
  (supply.world clock).perform (split .default [proof 4 0, proof 8 1] (.clamp 3)) newcomer

set_option maxRecDepth 4000

theorem exchanging_isOk : exchanging.1.isOk = true ∧ exchanging.2.drawn ≤ 14 ∧
    exchanging.2.wallet.store.keysets ≠ [] := by
  decide +kernel

theorem fresh_newcomer {later : Nat} (few : later ≤ 14) {ys : List suite.Point}
    (given : Proof.ys [proof 4 0, proof 8 1] = .ok ys) :
    (supply.world clock).Fresh newcomer.drawn later (World.knownPoints newcomer.wallet.store ys) := by
  have points : Proof.ys [proof 4 0, proof 8 1] = .ok [point 0, point 1] := by decide +kernel
  cases points.symm.trans given
  exact World.Fresh.of_le (.of_points (by decide +kernel) (by decide +kernel)) few

/-- A token of the proofs that a wallet before the mint with wide keys holds. -/
def letter : Token wide := ⟨[⟨Settings.default.mintUrl, [wideProof 4 0, wideProof 8 1]⟩], none⟩

theorem exists_receive_letter : ∃ total y, (wideSupply.world clock).perform
    (receive .default letter.toText) { purse with wallet := .ofStore .default .empty } =
      (.ok total, y) := by
  have laws : wide.Laws (ZMod 65537) := by
    have : Fact (Nat.Prime 65537) := ⟨by norm_num⟩
    exact (Suite.lawsOfScalars (by decide)).recoded _ _ _
  have points : Proof.ys letter.proofs = .ok [wideScalar 96, wideScalar 97] := by decide +kernel
  have rows : purse.wallet.store.held = [wideRow 4 0, wideRow 8 1] := rfl
  have valid : ∀ p ∈ letter.proofs, wideMint.Valid p := by
    have each := funded_purse.each
    rw [rows] at each
    obtain ⟨first, second⟩ := List.forall_mem_cons.1 each
    exact List.forall_mem_cons.2 ⟨(first rfl).2.1,
      List.forall_mem_singleton.2 (List.forall_mem_singleton.1 second rfl).2.1⟩
  have atRest : Scene.AtRest { purse with wallet := .ofStore .default .empty } :=
    ⟨⟨sound_wideMint, List.forall_mem_nil _⟩, complete_wideMint, rfl⟩
  have decoded := Token.ofText_toText (t := letter) encodes_wide (List.cons_ne_nil _ _)
  obtain ⟨total, y, ran, -⟩ := (World.yields_receive laws atRest .default decoded
    (List.forall_mem_singleton.2 rfl)
    (by decide : Amount.clamp 12 ≠ .zero) (by decide +kernel) points (by decide +kernel) valid
    (fun _ _ => List.not_mem_nil) ((regular_wideSupply laws).mono rfl (Nat.le_refl _) (by decide))
    ((fresh_wideSupply (by decide +kernel)).of_le (by decide))).exists_perform
  exact ⟨total, y, ran⟩

/-- Of proofs of 4 and 8 it keeps 1 and 8 and has 1 and 2 to send, and its store holds just these.
It can redeem them as well, and another wallet receives such proofs in a token. -/
theorem newcomer_conserved :
    (∃ keep send, exchanging.1 = .ok (keep, send) ∧ keep.map (·.amount.toNat) = [1, 8] ∧
      send.map (·.amount.toNat) = [1, 2] ∧
      newcomer.wallet.store.Renewed [proof 4 0, proof 8 1] (keep ++ send)
        exchanging.2.wallet.store) ∧
    (∃ redeemed y, (supply.world clock).perform (redeem .default [proof 4 0, proof 8 1]) newcomer =
      (.ok redeemed, y) ∧ Proof.exactTotal redeemed = 12) ∧
    ∃ total y, (wideSupply.world clock).perform (receive .default letter.toText)
      { purse with wallet := .ofStore .default .empty } = (.ok total, y) ∧ total.toNat = 12 := by
  refine ⟨?_, ?_, ?_⟩
  · obtain ⟨⟨keep, send⟩, ran⟩ := (supply.world clock).perform_of_isOk
      (split .default [proof 4 0, proof 8 1] (.clamp 3)) newcomer exchanging_isOk.1
    have conserved := (value_conserved .default newcomer).1 _ _ keep send _ ran
    exact ⟨keep, send, congrArg Prod.fst ran, conserved.kept.trans (by decide +kernel),
      conserved.sent.trans (by decide +kernel),
      conserved.renewed fun ys given => fresh_newcomer exchanging_isOk.2.1 given⟩
  · obtain ⟨redeemed, ran⟩ := (supply.world clock).perform_of_isOk
      (redeem .default [proof 4 0, proof 8 1]) newcomer (by decide +kernel)
    have equal := ((value_conserved .default newcomer).2.1 _ redeemed _ ran).1
    exact ⟨redeemed, _, ran, equal.trans (by decide +kernel)⟩
  · obtain ⟨total, y, ran⟩ := exists_receive_letter
    obtain ⟨token, -, decoded, equal, -⟩ := (value_conserved .default _).2.2 _ total y ran
    have written := Token.ofText_toText (t := letter) encodes_wide (List.cons_ne_nil _ _)
    cases written.symm.trans decoded
    exact ⟨total, y, ran, equal.trans (by decide +kernel)⟩

/-- What this wallet has done is more than to exchange rows in its store: it has taken in the
current keyset. -/
theorem newcomer_takes_in : (∃ keep send, exchanging.1 = .ok (keep, send)) ∧
    ∀ rows ys, exchanging.2.wallet.store ≠ newcomer.wallet.store.exchange rows ys none := by
  obtain ⟨⟨keep, send⟩, ran⟩ := (supply.world clock).perform_of_isOk
    (split .default [proof 4 0, proof 8 1] (.clamp 3)) newcomer exchanging_isOk.1
  refine ⟨⟨keep, send, congrArg Prod.fst ran⟩, fun rows ys same => ?_⟩
  exact exchanging_isOk.2.2 (congrArg Store.keysets same)

end Sample

end Chaumian
