import Chaumian.Proofs.Lifecycle
import Chaumian.Proofs.Wallet.Exactness
import Chaumian.Proofs.Wallet.Progress

/-!
# What is available can be sent

What a wallet `Offers` are proofs of its own that are valid and not taken; if it is `Funded`, these
are all that are free to be spent. Before a complete mint it can provide any amount that is not more
than they are worth: proofs are selected, and either they are of the amount as they are or the mint
exchanges them. What comes of it is valid and not taken (`Handed`). Once the mint has taken the
proofs that were sent, the wallet that sent them finds that out, and archives all of them.
-/

namespace Chaumian

variable {S : Suite}

/-- A selection is worth no more than what it is selected from. -/
theorem Proof.exactTotal_le_of_subperm {proofs others : List (Proof S)}
    (some : proofs.Subperm others) : exactTotal proofs ≤ exactTotal others := by
  obtain ⟨taken, perm, sub⟩ := some
  rw [← exactTotal_perm perm]
  exact ((sub.map _).map _).sum_le_sum fun _ _ => Nat.zero_le _

namespace Wallet

variable {supply : Supply S} {lightning : Lightning} {x y : Scene S (Mint S × Nat)}

theorem Scene.AtRest.withStore (atRest : x.AtRest) {store : Store S}
    (same : store.keysets = x.wallet.store.keysets) : (x.withStore store).AtRest := by
  have faces := atRest.toFaces.withStore same
  exact ⟨⟨faces.sound, faces.registered⟩, atRest.complete, atRest.idle⟩

/-- A wallet at rest stays so before a later state of the mint, whatever has been drawn. -/
theorem Scene.AtRest.later (atRest : x.AtRest) {m : Mint S} (follows : m.Follows x.mint.1)
    (n drawn named : Nat) : Scene.AtRest ⟨x.wallet, (m, n), drawn, named⟩ := by
  have faces := atRest.toFaces.withMint follows.keysets n
  exact ⟨⟨faces.sound, faces.registered⟩, atRest.complete.of_keysets follows.keysets, atRest.idle⟩

/-- Different proofs that are held in one of some states, valid and not taken. -/
structure Scene.Offers (x : Scene S (Mint S × Nat)) (states : List ProofStatus)
    (proofs : List (Proof S)) : Prop where
  keyed : x.wallet.store.Keyed
  distinct : proofs.Nodup
  held : ∀ p ∈ proofs, ∃ status ∈ states, x.wallet.store.Holds status p
  valid : ∀ p ∈ proofs, x.mint.1.Valid p
  unspent : ∀ p ∈ proofs, ∀ y, p.y = .ok y → y ∉ x.mint.1.spent

namespace Scene.Offers

/-! ## What is offered -/

variable {states : List ProofStatus} {proofs selected : List (Proof S)}

theorem of_subperm (offers : x.Offers states proofs) (some : selected.Subperm proofs) :
    x.Offers states selected := by
  obtain ⟨taken, perm, sub⟩ := some
  have mem {p : Proof S} (mem : p ∈ selected) : p ∈ proofs := sub.subset (perm.mem_iff.2 mem)
  exact ⟨offers.keyed, perm.nodup_iff.1 (offers.distinct.sublist sub),
    fun p here => offers.held p (mem here), fun p here => offers.valid p (mem here),
    fun p here => offers.unspent p (mem here)⟩

theorem of_states {others : List ProofStatus} (offers : x.Offers states proofs)
    (more : states ⊆ others) : x.Offers others proofs where
  keyed := offers.keyed
  distinct := offers.distinct
  held p mem := (offers.held p mem).imp fun _ h => ⟨more h.1, h.2⟩
  valid := offers.valid
  unspent := offers.unspent

/-- Two of them with one point are the same. -/
theorem eq_of_point (offers : x.Offers states proofs) {p q : Proof S} (mem : p ∈ proofs)
    (mem' : q ∈ proofs) {z : S.Point} (point : p.y = .ok z) (point' : q.y = .ok z) : p = q := by
  obtain ⟨_, -, row, held, rfl, here, -⟩ := offers.held p mem
  obtain ⟨_, -, row', held', rfl, here', -⟩ := offers.held q mem'
  have same : row.y = row'.y := by
    rw [← Except.ok.inj (point.symm.trans here), ← Except.ok.inj (point'.symm.trans here')]
  rw [List.inj_on_of_nodup_map offers.keyed held held' same]

theorem nodup_secrets (offers : x.Offers states proofs) : (proofs.map (·.secret)).Nodup := by
  refine List.Nodup.map_on ?_ offers.distinct
  intro p mem q mem' same
  obtain ⟨_, -, row, -, -, point, -⟩ := offers.held p mem
  refine offers.eq_of_point mem mem' point ?_
  rw [Proof.y, ← same]
  exact point

/-- The mint accepts them, and their points are those of rows that are held. -/
theorem exists_accepts (offers : x.Offers states proofs) :
    ∃ ys, x.mint.1.Accepts proofs ys ∧
      ∀ z ∈ ys, ∃ row ∈ x.wallet.store.held, row.y = z ∧ row.status ∈ states := by
  have point (p : Proof S) (mem : p ∈ proofs) : ∃ y, p.y = .ok y := by
    obtain ⟨_, -, row, -, -, point, -⟩ := offers.held p mem
    exact ⟨row.y, point⟩
  obtain ⟨ys, points⟩ := Proof.exists_ys point
  have given {z : S.Point} (mem : z ∈ ys) := exists_of_mem_forall₂ (mapM_eq_ok.1 points) mem
  refine ⟨ys, ⟨points, ?_, fun z mem => ?_, Mint.checkSignatures_eq_ok.2 fun p mem =>
    (offers.valid p mem).signed⟩, fun z mem => ?_⟩
  · refine nodup_of_forall₂ (mapM_eq_ok.1 points) offers.distinct ?_
    intro p mem q mem' z
    exact offers.eq_of_point mem mem'
  · obtain ⟨p, mem, point⟩ := given mem
    exact offers.unspent p mem z point
  · obtain ⟨p, mem, point⟩ := given mem
    obtain ⟨_, counted, row, held, -, here, rfl⟩ := offers.held p mem
    exact ⟨row, held, Except.ok.inj (here.symm.trans point), counted⟩

/-- Of proofs that are free to be spent, these rows can be set aside. -/
theorem exists_free (offers : x.Offers [.unspent] proofs) :
    ∃ ys, x.mint.1.Accepts proofs ys ∧
      ∀ z ∈ ys, ∃ row ∈ x.wallet.store.held, row.y = z ∧ row.status = .unspent := by
  obtain ⟨ys, accepted, each⟩ := offers.exists_accepts
  refine ⟨ys, accepted, fun z mem => ?_⟩
  obtain ⟨row, held, same, counted⟩ := each z mem
  exact ⟨row, held, same, List.mem_singleton.1 counted⟩

/-- Those that are free to be spent are held as such. -/
theorem holds (offers : x.Offers [.unspent] proofs) {p : Proof S} (mem : p ∈ proofs) :
    x.wallet.store.Holds .unspent p := by
  obtain ⟨_, free, holds⟩ := offers.held p mem
  exact List.mem_singleton.1 free ▸ holds

end Scene.Offers

/-- The proofs that are free to be spent are kept under their points, valid and not taken. -/
structure Scene.Funded (x : Scene S (Mint S × Nat)) : Prop where
  keyed : x.wallet.store.Keyed
  each : ∀ row ∈ x.wallet.store.held, row.status = .unspent →
    row.proof.y = .ok row.y ∧ x.mint.1.Valid row.proof ∧ row.y ∉ x.mint.1.spent

namespace Scene.Funded

/-! ## What is available -/

theorem exists_row (funded : x.Funded) {p : Proof S} (mem : p ∈ x.wallet.held [.unspent]) :
    ∃ row ∈ x.wallet.store.held, row.proof = p ∧ row.status = .unspent ∧ p.y = .ok row.y ∧
      x.mint.1.Valid p ∧ row.y ∉ x.mint.1.spent := by
  have mem := (Proof.sortByAmount_perm _).mem_iff.1 mem
  obtain ⟨row, listed, rfl⟩ := List.mem_map.1 mem
  obtain ⟨held, listed⟩ := List.mem_filter.1 listed
  have free : row.status = .unspent := by simpa using listed
  exact ⟨row, held, rfl, free, funded.each row held free⟩

theorem offers (funded : x.Funded) : x.Offers [.unspent] (x.wallet.held [.unspent]) := by
  refine ⟨funded.keyed, ?_, fun p mem => ?_, fun p mem => ?_, fun p mem y point => ?_⟩
  · refine (Proof.sortByAmount_perm _).nodup_iff.2 ?_
    refine List.Nodup.map_on ?_ (funded.keyed.of_map.filter _)
    intro row mem row' mem' same
    obtain ⟨held, free⟩ := List.mem_filter.1 mem
    obtain ⟨held', free'⟩ := List.mem_filter.1 mem'
    have point := (funded.each row held (by simpa using free)).1
    rw [same, (funded.each row' held' (by simpa using free')).1] at point
    exact List.inj_on_of_nodup_map funded.keyed held held' (Except.ok.inj point).symm
  · obtain ⟨row, held, same, free, point, -⟩ := funded.exists_row mem
    exact ⟨.unspent, List.mem_singleton_self _, row, held, same, point, free⟩
  · obtain ⟨row, -, -, -, -, valid, -⟩ := funded.exists_row mem
    exact valid
  · obtain ⟨row, -, -, -, here, -, unspent⟩ := funded.exists_row mem
    exact Except.ok.inj (here.symm.trans point) ▸ unspent

end Scene.Funded

namespace World

/-! ## Sending -/

/-- What proofs are that have been made ready for someone else: valid and not taken, with points
that are those of proofs that were held or of secrets that have just been drawn. -/
structure Handed (world : World S (Mint S × Nat)) (x : Scene S (Mint S × Nat))
    (new : List (Proof S)) (y : Scene S (Mint S × Nat)) : Prop where
  atRest : y.AtRest
  keyed : y.wallet.store.Keyed
  later : x.drawn ≤ y.drawn
  drawn : y.drawn ≤ x.drawn + splitDraws
  /-- At most the mint has taken proofs of the wallet for it. -/
  taken : ∃ zs, (∀ z ∈ zs, z ∈ x.wallet.store.proofs.map (·.row.y)) ∧
    y.mint.1 = { x.mint.1 with spent := x.mint.1.spent ++ zs }
  /-- The rows there are now are those there were and those of secrets that have been drawn. -/
  rows : ∀ z ∈ y.wallet.store.proofs.map (·.row.y), z ∈ x.wallet.store.proofs.map (·.row.y) ∨
    ∃ i, x.drawn ≤ i ∧ i < y.drawn ∧ Blind.pointOf S (world.secret i).toBytes = .ok z
  valid : ∀ p ∈ new, y.mint.1.Valid p
  points : ∃ ys, Proof.ys new = .ok ys ∧ ys.Nodup ∧ ∀ z ∈ ys, z ∉ y.mint.1.spent ∧
    (z ∈ x.wallet.store.held.map (·.y) ∨ ∃ i, x.drawn ≤ i ∧ i < y.drawn ∧
      Blind.pointOf S (world.secret i).toBytes = .ok z)

theorem Handed.follows {world : World S (Mint S × Nat)} {new : List (Proof S)}
    (h : Handed world x new y) : y.mint.1.Follows x.mint.1 := by
  obtain ⟨zs, -, taken⟩ := h.taken
  rw [taken]
  exact ⟨rfl, fun z old => List.mem_append_left _ old⟩

/-- So these proofs can be given again by a wallet that holds them. -/
theorem Handed.offers {world : World S (Mint S × Nat)} {new : List (Proof S)}
    (h : Handed world x new y) {states : List ProofStatus} {status : ProofStatus}
    (counted : status ∈ states) (holds : ∀ p ∈ new, y.wallet.store.Holds status p) :
    y.Offers states new := by
  obtain ⟨ys, points, distinct, each⟩ := h.points
  refine ⟨h.keyed, (Proof.nodup_secrets_of_ys points distinct).of_map,
    fun p mem => ⟨status, counted, holds p mem⟩, h.valid, fun p mem z point => ?_⟩
  obtain ⟨z', there, point'⟩ := exists_of_mem_forall₂ (mapM_eq_ok.1 points).flip mem
  obtain rfl := Except.ok.inj (point.symm.trans point')
  exact (each z there).1

theorem yields_reserveOrPending (keyed : x.wallet.store.Keyed) {ys : List S.Point}
    (free : ∀ z ∈ ys, ∃ row ∈ x.wallet.store.held, row.y = z ∧ row.status = .unspent) :
    (supply.world lightning).Yields (reserveOrPending ys) x fun _ y => ∃ store,
      x.wallet.store.reserve ys = .ok store ∧ y = x.withStore store := by
  obtain ⟨store, reserved⟩ := (Store.reserve_succeeds_iff keyed).2 free
  refine .seq (.tryStore ?_)
  rw [StoreCall.perform, reserved]
  exact .pure ⟨store, rfl, rfl⟩

/-- What comes of an exchange has points of secrets that have just been drawn. -/
theorem Exchanged.handed {world : World S (Mint S × Nat)} {status : ProofStatus}
    {proofs : List (Proof S)} {ys : List S.Point} {amount : Amount}
    {parts : List (Proof S) × List (Proof S)}
    (made : world.Exchanged status proofs amount x parts y)
    (renewed : Renewed x ys (parts.1 ++ parts.2) y) (keyed : x.wallet.store.Keyed)
    (points : Proof.ys proofs = .ok ys) (own : ∀ z ∈ ys, z ∈ x.wallet.store.proofs.map (·.row.y))
    (fresh : world.Fresh x.drawn (x.drawn + splitDraws)
      (x.mint.1.spent ++ x.wallet.store.proofs.map (·.row.y))) :
    Handed world x parts.2 y := by
  have unknown : world.Fresh x.drawn y.drawn (knownPoints x.wallet.store ys) := by
    refine (fresh.of_le renewed.drawn).mono fun z known => List.mem_append_right _ ?_
    exact (List.mem_append.1 known).elim (own z) id
  have room : x.drawn + (parts.1 ++ parts.2).length ≤ x.drawn + splitDraws :=
    made.drawn ▸ renewed.drawn
  obtain ⟨kept, sent, before, -, sentMade, newPoints, books, after⟩ :=
    made.exchange_eq points unknown
  -- The new points are different, and the mint has taken none of them.
  have apart := fresh.nodup room made.secrets newPoints
  have new (row : ProofRow S) (mem : row ∈ kept ++ sent) :=
    fresh.notMem room made.secrets newPoints (List.mem_map_of_mem mem)
  have drawn (row : ProofRow S) (mem : row ∈ kept ++ sent) : ∃ i, x.drawn ≤ i ∧ i < y.drawn ∧
      Blind.pointOf S (world.secret i).toBytes = .ok row.y := by
    obtain ⟨i, place, point⟩ := exists_of_mem_forall₂ (points_of_drawn made.secrets _ newPoints)
      (List.mem_map_of_mem mem)
    rw [List.mem_range'_1] at place
    exact ⟨i, place.1, made.drawn ▸ place.2, point⟩
  have old : before.proofs = x.wallet.store.proofs := congrArg Prod.fst books
  refine ⟨renewed.atRest, ?_, made.drawn ▸ Nat.le_add_right _ _, renewed.drawn,
    ⟨ys, own, renewed.taken⟩, fun z mem => ?_, fun p mem => ?_, sent.map (·.y),
    ProofRow.ys_of_ofProofs sentMade, ?_, fun z mem => ?_⟩
  · rw [after]
    refine (keyed.of_books books).exchange apart (fun row mem there => new row mem ?_) ys none
    exact List.mem_append_right _ (old ▸ there)
  · rw [after, Store.map_ys_exchange, old] at mem
    refine (List.mem_append.1 mem).imp id fun mem => ?_
    obtain ⟨row, there, rfl⟩ := List.mem_map.1 mem
    exact drawn row there
  · exact (renewed.valid p (List.mem_append_right _ mem)).of_keysets (by rw [renewed.taken])
  · rw [List.map_append] at apart
    exact apart.of_append_right
  · obtain ⟨row, there, rfl⟩ := List.mem_map.1 mem
    have mem := List.mem_append_right kept there
    refine ⟨fun spent => ?_, .inr (drawn row mem)⟩
    rw [renewed.taken, List.mem_append] at spent
    exact new row mem (List.mem_append.2 (spent.imp id (own row.y)))

/-- It makes no difference if proofs had been set aside before. -/
theorem Handed.of_aside {world : World S (Mint S × Nat)} {ys : List S.Point} {new : List (Proof S)}
    (h : Handed world (x.withStore
      (x.wallet.store.modifyAll (StoredProof.withStatus .reserved) ys)) new y) :
    Handed world x new y := by
  obtain ⟨ys', points, distinct, each⟩ := h.points
  have rows := x.wallet.store.map_ys_withStatus .reserved ys
  refine ⟨h.atRest, h.keyed, h.later, h.drawn, rows ▸ h.taken, rows ▸ h.rows, h.valid, ys', points,
    distinct, ?_⟩
  intro z mem
  obtain ⟨unspent, own | drawn⟩ := each z mem
  · rw [Scene.store_withStore, Store.map_held_modifyAll
      (f := StoredProof.withStatus .reserved) (fun _ => rfl) fun _ => rfl] at own
    exact ⟨unspent, .inl own⟩
  · exact ⟨unspent, .inr drawn⟩

/-- Proofs that are taken as they are have nothing done to them but that they may be set aside. -/
theorem Handed.whole {world : World S (Mint S × Nat)} (atRest : x.AtRest)
    {selected : List (Proof S)} {ys : List S.Point} (offers : x.Offers [.unspent] selected)
    (accepted : x.mint.1.Accepts selected ys)
    (held : ∀ z ∈ ys, z ∈ x.wallet.store.held.map (·.y)) : Handed world x selected x :=
  ⟨atRest, offers.keyed, Nat.le_refl _, Nat.le_add_right _ _,
    ⟨[], List.forall_mem_nil _, by rw [List.append_nil]⟩, fun _ => .inl, offers.valid, ys,
    accepted.points, accepted.distinct, fun z mem => ⟨accepted.unspent z mem, .inl (held z mem)⟩⟩

variable {G : Type} [AddCommGroup G] (laws : S.Laws G)

include laws

/-- Proofs that are free to be spent are set aside and exchanged. -/
theorem yields_exchange (atRest : x.AtRest) (settings : Settings) (status : ProofStatus)
    {selected : List (Proof S)} {total amount : Amount} (offers : x.Offers [.unspent] selected)
    (positive : amount ≠ .zero) (counted : Proof.total selected = .ok total)
    (within : amount.toNat ≤ total.toNat)
    (regular : supply.Regular x.mint.1 x.drawn (x.drawn + splitDraws))
    (fresh : (supply.world lightning).Fresh x.drawn (x.drawn + splitDraws)
      (x.mint.1.spent ++ x.wallet.store.proofs.map (·.row.y))) :
    (supply.world lightning).Yields (do
        let ys ← Operation.ysOf selected
        reserveOrPending ys
        tryCatch (splitInto settings status selected amount) fun e => do
          Operation.askStore (.unreserve ys)
          throw e) x
      fun parts y => Handed (supply.world lightning) x parts.2 y := by
  obtain ⟨ys, accepted, each⟩ := offers.exists_free
  refine .seq (.known (mapError_eq_ok.2 accepted.points) ?_)
  refine .bind (yields_reserveOrPending offers.keyed each) ?_
  rintro _ _ ⟨store, reserved, rfl⟩
  obtain ⟨-, rfl⟩ := Store.reserve_eq_ok reserved
  -- That they have been set aside changes no point, so that what was new still is.
  have rows := x.wallet.store.map_ys_withStatus .reserved ys
  have own (z : S.Point) (mem : z ∈ ys) :
      z ∈ (x.wallet.store.modifyAll (StoredProof.withStatus .reserved) ys).proofs.map
        (·.row.y) := by
    obtain ⟨row, held, rfl, -⟩ := each z mem
    rw [rows]
    exact List.mem_map.2 ⟨_, Store.mem_held.1 held, rfl⟩
  rw [← rows] at fresh
  have aside : Scene.AtRest (x.withStore
      (x.wallet.store.modifyAll (StoredProof.withStatus .reserved) ys)) := atRest.withStore rfl
  have exchanged : (supply.world lightning).Yields (splitInto settings status selected amount)
      (x.withStore (x.wallet.store.modifyAll (StoredProof.withStatus .reserved) ys))
      fun parts y => Handed (supply.world lightning) x parts.2 y := by
    refine ((ends_splitInto settings status selected amount _).and
      (ends_splitInto_signed laws aside settings status positive counted within accepted.points
        accepted.distinct (fun p mem => (offers.valid p mem).signed) regular fun _ =>
          fresh.mono fun z known => ?_)).mono ?_ ?_
    · exact List.mem_append_right _ ((List.mem_append.1 known).elim (own z) id)
    · rintro parts y ⟨made, renewed⟩
      have keyed := offers.keyed.modifyAll_withStatus .reserved ys
      exact (made.handed renewed keyed accepted.points own fresh).of_aside
    · -- The mint would have to have taken one of the proofs before.
      rintro e y ⟨-, refused⟩
      obtain ⟨z, mem, taken⟩ := refused.spent
      exact accepted.unspent z mem taken
  exact .tryCatch exchanged fun _ _ failed => failed.elim

/-- What is offered makes up every amount that is not more, either as it is or exchanged. -/
theorem yields_splitToSend (atRest : x.AtRest) (settings : Settings) {available : List (Proof S)}
    {free amount : Amount} {reserve : Bool} (offers : x.Offers [.unspent] available)
    (positive : amount ≠ .zero) (counted : Proof.total available = .ok free)
    (within : amount.toNat ≤ free.toNat)
    (regular : supply.Regular x.mint.1 x.drawn (x.drawn + splitDraws))
    (fresh : (supply.world lightning).Fresh x.drawn (x.drawn + splitDraws)
      (x.mint.1.spent ++ x.wallet.store.proofs.map (·.row.y))) :
    (supply.world lightning).Yields (splitToSend settings available amount reserve) x
      fun parts y => Handed (supply.world lightning) x parts.2 y := by
  obtain ⟨selected, chosen⟩ := exists_selectToCover counted within
  have some := selectToCover_subperm positive chosen
  have offers := offers.of_subperm some
  obtain ⟨total, known⟩ : ∃ total, Proof.total selected = .ok total := by
    have most := Proof.exactTotal_le_of_subperm some
    rw [Proof.exactTotal_of_total counted] at most
    exact ⟨_, Proof.total_of_le most⟩
  have covered : amount.toNat ≤ total.toNat := by
    rw [← Proof.exactTotal_of_total known]
    exact (selectToCover_covers chosen).1
  have exchanged := yields_exchange laws atRest settings
    (if reserve then .reserved else .unspent) offers positive known covered regular fresh
  obtain ⟨ys, accepted, each⟩ := offers.exists_free
  have whole : Handed (supply.world lightning) x selected x := by
    refine .whole atRest offers accepted fun z mem => ?_
    obtain ⟨row, held, rfl, -⟩ := each z mem
    exact List.mem_map_of_mem held
  unfold splitToSend
  refine .guard (fun nothing => absurd nothing positive) fun _ => ?_
  refine .seq (.known chosen (.seq (.known (mapError_eq_ok.2 known) ?_)))
  refine .ite (fun _ => .seq (.pure exchanged)) fun _ => ?_
  refine .bind (yields_denominations settings x) ?_
  rintro d _ ⟨rfl, -⟩
  refine .seq (.pure (.ite (fun _ => ?_) fun _ => exchanged))
  -- The proofs selected are of the amount as they are, and at most set aside.
  cases reserve with
  | false => exact .pure whole
  | true =>
    refine .seq (.known (mapError_eq_ok.2 accepted.points) ?_)
    refine .bind (yields_reserveOrPending offers.keyed each) ?_
    rintro _ _ ⟨store, reserved, rfl⟩
    obtain ⟨-, rfl⟩ := Store.reserve_eq_ok reserved
    exact .pure { whole with
      atRest := atRest.withStore rfl
      keyed := offers.keyed.modifyAll_withStatus .reserved ys
      rows := fun z mem => .inl (Store.map_ys_withStatus _ .reserved ys ▸ mem) }

theorem yields_send (atRest : x.AtRest) (funded : x.Funded) (settings : Settings)
    {free amount : Amount} (memo : Option String) (positive : amount ≠ .zero)
    (counted : Proof.total (x.wallet.held [.unspent]) = .ok free)
    (within : amount.toNat ≤ free.toNat)
    (regular : supply.Regular x.mint.1 x.drawn (x.drawn + splitDraws))
    (fresh : (supply.world lightning).Fresh x.drawn (x.drawn + splitDraws)
      (x.mint.1.spent ++ x.wallet.store.proofs.map (·.row.y))) :
    (supply.world lightning).Yields (send settings amount memo) x
      fun token y => ∃ parts : List (Proof S) × List (Proof S),
        token = ⟨[⟨settings.mintUrl, parts.2⟩], memo⟩ ∧
        (supply.world lightning).Provided (x.wallet.held [.unspent]) amount true x parts y ∧
        Handed (supply.world lightning) x parts.2 y := by
  refine .send (((ends_splitToSend settings _ amount true x funded.keyed).sure
    (yields_splitToSend laws atRest settings funded.offers positive counted within regular
      fresh)).mono ?_ fun _ _ failed => failed)
  rintro parts y ⟨⟨_, provided⟩, handed⟩
  exact ⟨provided.ne_nil positive, parts, rfl, provided, handed⟩

end World

end Wallet

end Chaumian
