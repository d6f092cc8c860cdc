import Chaumian.Proofs.Wallet.Agreement
import Chaumian.Wallet.Command

/-!
# Each operation keeps wallet and mint in step

An operation that is begun while a wallet is in step with its mint ends so, whichever way it ends,
as long as secrets and the names of quotes are new. What only looks things up is calm, an exchange
that the mint has granted moves both sides at once, and one that it has refused moves neither.
-/

namespace Chaumian

variable {S : Suite}

theorem Store.Knows.reserve {store reserved : Store S} {p : Proof S} (h : store.Knows p)
    {ys : List S.Point} (aside : store.reserve ys = .ok reserved) : reserved.Knows p := by
  obtain ⟨q, there, secret, amount⟩ := h
  rw [(Store.reserve_eq_ok aside).2]
  refine ⟨_, List.mem_map_of_mem there, ?_⟩
  split
  · exact ⟨secret, amount⟩
  · exact ⟨secret, amount⟩

theorem Store.Knows.of_books {store other : Store S} {p : Proof S} (h : store.Knows p)
    (same : other.books = store.books) : other.Knows p := by
  have same : other.proofs = store.proofs := congrArg Prod.fst same
  unfold Store.Knows at h ⊢
  rw [same]
  exact h

theorem Wallet.knows_of_mem_held {w : Wallet S} {states : List ProofStatus} {p : Proof S}
    (mem : p ∈ w.held states) : w.store.Knows p := by
  have mem := (Proof.sortByAmount_perm _).mem_iff.1 mem
  obtain ⟨row, listed, rfl⟩ := List.mem_map.1 mem
  exact ⟨_, Store.mem_held.1 (List.mem_filter.1 listed).1, rfl, rfl⟩

namespace Wallet

/-- Wallet and mint are in step if all secrets and all names of quotes up to here were new. -/
def World.Kept (world : World S (Mint S × Nat)) (paid : Int) (y : Scene S (Mint S × Nat)) : Prop :=
  world.Fresh 0 y.drawn [] → (y.mint.1.quotes.map (·.id)).Nodup → world.InStep paid y

/-- However the operation ends, wallet and mint are in step then. -/
def World.Keeps {α : Type} (world : World S (Mint S × Nat)) (paid : Int) (op : Operation S α)
    (x : Scene S (Mint S × Nat)) : Prop :=
  world.Ends op x (fun _ => world.Kept paid) fun _ => world.Kept paid

namespace World

variable {α β : Type} {world : World S (Mint S × Nat)} {paid : Int} {x y : Scene S (Mint S × Nat)}

theorem InStep.kept (h : world.InStep paid x) : world.Kept paid x := fun _ _ => h

theorem Kept.unreserve (h : world.Kept paid x) (ys : List S.Point) :
    world.Kept paid (x.withStore (x.wallet.store.unreserve ys)) :=
  fun fresh ids => (h fresh ids).unreserve ys

namespace Keeps

theorem map {op : Operation S β} {f : β → α} (h : world.Keeps paid op x) :
    world.Keeps paid (do return f (← op)) x :=
  Ends.map h

theorem of_idle {op : Operation S α} (h : world.InStep paid x)
    (idle : world.Ends op x (fun _ y => x.Idle y) fun _ y => x.Idle y) : world.Keeps paid op x :=
  idle.mono (fun _ _ idle => (h.idle idle).kept) fun _ _ idle => (h.idle idle).kept

theorem of_calm {op : Operation S α} (h : world.InStep paid x) (calm : world.Within Scene.Calm op) :
    world.Keeps paid op x :=
  .of_idle h ((calm x).mono (fun _ _ calm => calm.idle) fun _ _ calm => calm.idle)

theorem lift (h : world.Kept paid x) (r : Except (Error S) α) :
    world.Keeps paid (Operation.lift r) x :=
  Ends.lift (fun _ _ => h) fun _ _ => h

/-- A calm first part. -/
theorem calm_bind {op : Operation S β} {f : β → Operation S α} (h : world.InStep paid x)
    (first : world.Within Scene.Calm op)
    (next : ∀ b y, x.Calm y → world.InStep paid y → world.Keeps paid (f b) y) :
    world.Keeps paid (op >>= f) x :=
  .within first (fun _ _ calm => (h.idle calm.idle).kept)
    fun b y calm => next b y calm (h.idle calm.idle)

/-! ## Proofs that are held and invoices -/

theorem reserve (h : world.InStep paid x) (ys : List S.Point) :
    world.Keeps paid (Operation.askStore (.reserve ys)) x := by
  refine Ends.askStore (fun _ store called => ?_) fun _ store called => ?_
  · rw [StoreCall.perform, StoreCall.commit.eq_def] at called
    split at called
    · cases called
      exact (h.reserve ‹_›).kept
    · cases called
  · rw [StoreCall.perform, StoreCall.commit.eq_def] at called
    split at called
    · cases called
    · cases called
      exact h.kept

theorem unreserve (h : world.InStep paid x) (proofs : List (Proof S)) :
    world.Keeps paid (Wallet.unreserve proofs) x := by
  refine calm_bind h (.lift _) fun ys y _ h => ?_
  refine Ends.askStore (fun _ store called => ?_) fun _ _ called => nomatch called
  cases called
  exact h.kept.unreserve ys

end Keeps

/-! ## Changes on both sides -/

/-- Rows of new proofs that the mint takes for its own. -/
theorem Added.of_proofs {proofs : List (Proof S)} {rows : List (ProofRow S)} {n : Nat}
    (same : rows.map (·.proof) = proofs) (points : Proof.ys proofs = .ok (rows.map (·.y)))
    (free : ∀ row ∈ rows, row.status ≠ .spent) (signed : ∀ p ∈ proofs, x.mint.1.Signed p)
    (secrets : proofs.map (·.secret) = (List.range' x.drawn proofs.length).map world.secret)
    (within : x.drawn + proofs.length ≤ n) : world.Added x rows n := by
  subst same
  exact ⟨points, free, fun row mem => signed _ (List.mem_map_of_mem mem), secrets, within⟩

/-- What there is in a store to which they have been added. -/
theorem Added.proofs_of_update {rows : List (ProofRow S)} {n : Nat} (h : world.Added x rows n)
    {ys : List S.Point} (fresh : world.Fresh x.drawn n (knownPoints x.wallet.store ys))
    {store updated : Store S} {meltId : Option String} (books : store.books = x.wallet.store.books)
    (done : store.update rows ys meltId = .ok updated) :
    updated.proofs = (x.wallet.store.exchange rows ys meltId).proofs := by
  have same : store.proofs = x.wallet.store.proofs := congrArg Prod.fst books
  cases (fresh.update h.within h.secrets h.points books meltId).symm.trans done
  rw [Store.exchange, Store.modifyAll, same]
  rfl

namespace Keeps

variable {supply : Supply S} {lightning : Lightning} {x : Scene S (Mint S × Nat)}

theorem requestMint (h : (supply.world lightning).InStep paid x) (amount : Amount) :
    (supply.world lightning).Keeps paid (Wallet.requestMint amount) x := by
  unfold Wallet.requestMint
  refine Ends.guard (fun _ => h.kept) fun _ => ?_
  refine .seq (ends_ask (fun source quote m n served => ?_) fun _ n =>
    (h.idle (Scene.Calm.served x n).idle).kept)
  refine .seq (.askStore (fun _ store called => ?_) fun _ _ called => nomatch called)
  cases called
  obtain ⟨-, changed⟩ := Mint.quote_eq_ok (Mint.settle_eq_ok served)
  have faces := (h.faces.withMint (m := m) (by rw [changed]) n)
  -- The new quote is not minted, so that nothing is issued for it yet.
  refine .pure fun _ ids =>
    h.of_proofs rfl ⟨faces.sound, faces.registered⟩ (Nat.le_refl _) ?_ ?_ ids ?_
  · show m.keysets = x.mint.1.keysets
    rw [changed]
  · show m.spent = x.mint.1.spent
    rw [changed]
  · show m.issuedValue = x.mint.1.issuedValue
    rw [changed]
    rfl

/-- What the mint says is spent is archived already. -/
theorem invalidate (h : (supply.world lightning).InStep paid x) (proofs : List (Proof S))
    {checked : Bool} (asked : checked = true) :
    (supply.world lightning).Keeps paid (Wallet.invalidate proofs checked) x := by
  refine Ends.ite (fun _ => ?_) fun unasked => absurd asked unasked
  refine .seq ((ends_checkState proofs x).mono ?_ fun _ _ calm => (h.idle calm.idle).kept)
  rintro states y ⟨calm, told⟩
  have h := h.idle calm.idle
  refine .seq (.pure (.seq (.lift (fun ys points => ?_) fun _ _ => h.kept)))
  have taken (z : S.Point) (mem : z ∈ ys) : z ∈ y.mint.1.spent := by
    obtain ⟨p, invalid, point⟩ := exists_of_mem_forall₂ (mapM_eq_ok.1 (mapError_eq_ok.1 points)) mem
    obtain ⟨⟨_, s⟩, asked, rfl⟩ := List.mem_map.1 invalid
    obtain ⟨beside, spent⟩ := List.mem_filter.1 asked
    obtain ⟨z', point', known⟩ := (List.forall₂_iff_zip.1 told).2 beside
    cases point.symm.trans point'
    rw [calm.mint]
    exact known spent
  -- What the mint has taken is archived, and is not archived again.
  have unchanged := Store.markSpent_of_archived
    (fun p mem gone => ((h.each p mem).spent.2 (taken _ gone))) none
  refine .seq (.askStore (fun _ store called => .pure ?_) fun _ store called => ?_)
  · rw [StoreCall.perform, unchanged] at called
    cases called
    exact h.kept
  · rw [StoreCall.perform, unchanged] at called
    cases called

variable {G : Type} [AddCommGroup G] (laws : S.Laws G)

include laws

theorem mintProofs (h : (supply.world lightning).InStep paid x) (settings : Settings)
    (amount : Amount) (parts : Option (List Amount)) (invoiceId : String) :
    (supply.world lightning).Keeps paid (Wallet.mintProofs settings amount parts invoiceId) x := by
  have new {n : Nat} (all : (supply.world lightning).Fresh 0 n []) :
      (supply.world lightning).Fresh x.drawn n (knownPoints x.wallet.store []) := h.fresh all
  refine ((ends_mintProofs settings amount parts invoiceId x).and
    (ends_mintProofs_granted laws h.faces settings amount parts invoiceId)).mono ?_ ?_
  · rintro proofs y ⟨minted, issued⟩ all _
    obtain ⟨invoice, rows, store, updated, -, made, books, done, stored⟩ := minted.stored
    obtain ⟨quote, quoted, unminted, value⟩ := issued.quoted
    have added : (supply.world lightning).Added x rows y.drawn :=
      .of_proofs (ProofRow.proofs_of_ofProofs made) (ProofRow.ys_of_ofProofs made)
        (ProofRow.free_of_ofProofs made nofun) issued.signed minted.secrets
        (Nat.le_of_eq minted.drawn.symm)
    have kept := added.proofs_of_update (new all) books done
    have stored := (congrArg Store.proofs stored).trans kept
    refine h.issue quoted unminted added all ?_ stored issued.marked issued.faces
    rw [ProofRow.proofs_of_ofProofs made]
    exact value
  · rintro e y ⟨-, idle⟩ all _
    exact h.idle (idle (new all))

theorem splitInto (h : (supply.world lightning).InStep paid x) (settings : Settings)
    {status : ProofStatus} (free : status ≠ .spent) {proofs : List (Proof S)}
    (mine : ∀ p ∈ proofs, x.wallet.store.Knows p) (amount : Amount) :
    (supply.world lightning).Keeps paid (Wallet.splitInto settings status proofs amount) x := by
  refine ((ends_splitInto settings status proofs amount x).and
    (ends_splitInto_honoured laws h.faces settings status proofs amount)).mono ?_ ?_
  · rintro parts y ⟨made, honoured⟩ all _
    obtain ⟨ys, kept, sent, store, points, keptMade, sentMade, books, done⟩ := made.stored
    obtain ⟨ys', accepted, taken⟩ := honoured.taken
    cases points.symm.trans accepted.points
    have proofsOf : (kept ++ sent).map (·.proof) = parts.1 ++ parts.2 := by
      rw [List.map_append, ProofRow.proofs_of_ofProofs keptMade,
        ProofRow.proofs_of_ofProofs sentMade]
    have pointsOf : Proof.ys (parts.1 ++ parts.2) = .ok ((kept ++ sent).map (·.y)) := by
      rw [List.map_append]
      exact Proof.ys_append (ProofRow.ys_of_ofProofs keptMade) (ProofRow.ys_of_ofProofs sentMade)
    have added : (supply.world lightning).Added x (kept ++ sent) y.drawn := by
      refine .of_proofs proofsOf pointsOf (fun row mem => ?_) honoured.signed made.secrets
        (Nat.le_of_eq made.drawn.symm)
      rcases List.mem_append.1 mem with mem | mem
      · exact ProofRow.free_of_ofProofs keptMade nofun row mem
      · exact ProofRow.free_of_ofProofs sentMade free row mem
    -- What is given is worth what is got for it.
    have worth : Proof.exactTotal ((kept ++ sent).map (·.proof)) = Proof.exactTotal proofs := by
      obtain ⟨d, total, rest, counted, left, keepParts, sendParts⟩ := made.amounts
      have ⟨within, rest⟩ := Amount.toNat_of_sub? left
      have keepWorth := Denominations.exactSum_decompose keepParts
      have sendWorth := Denominations.exactSum_decompose sendParts
      rw [proofsOf, Proof.exactTotal_append, Proof.exactTotal, Proof.exactTotal, keepWorth,
        sendWorth, Proof.exactTotal_of_total counted]
      omega
    have stored := added.proofs_of_update (h.fresh_known mine points all) books done
    have moved := h.exchange mine accepted added all stored taken honoured.faces
    rwa [worth, sub_self, add_zero] at moved
  · rintro e y ⟨-, idle⟩ all _
    exact h.idle (idle fun ys points => h.fresh_known mine points all)

theorem splitToSend (h : (supply.world lightning).InStep paid x) (settings : Settings)
    {available : List (Proof S)} (mine : ∀ p ∈ available, x.wallet.store.Knows p) (amount : Amount)
    (reserved : Bool) :
    (supply.world lightning).Keeps paid
      (Wallet.splitToSend settings available amount reserved) x := by
  refine ends_provide (I := x.Calm) (refl x) (World.Within.denominations settings x)
    (fun _ calm => (h.idle calm.idle).kept) ?_ ?_
  · intro selected y _ _ _ _ calm
    by_cases asked : reserved = true
    · rw [if_pos asked]
      exact fun ys store _ aside => ((h.idle calm.idle).reserve aside).kept
    · rw [if_neg asked]
      exact (h.idle calm.idle).kept
  · intro selected ys store y _ chosen _ calm aside
    have mine (p : Proof S) (mem : p ∈ selected) : store.Knows p :=
      ((mine p ((selectToCover_covers chosen).2 p mem)).of_books calm.books).reserve aside
    have free : (if reserved then ProofStatus.reserved else .unspent) ≠ .spent := by
      split
      · exact nofun
      · exact nofun
    exact (splitInto laws ((h.idle calm.idle).reserve aside) settings free mine amount).mono
      (fun _ _ kept => kept) fun _ _ kept => kept.unreserve ys

theorem send (h : (supply.world lightning).InStep paid x) (settings : Settings) (amount : Amount)
    (memo : Option String) :
    (supply.world lightning).Keeps paid (Wallet.send settings amount memo) x := by
  refine .seq ((ends_unspentProofs x).mono ?_ fun _ _ h => h.elim)
  rintro _ _ ⟨rfl, rfl⟩
  exact .seq ((splitToSend laws h settings (fun p => knows_of_mem_held) amount true).mono
    (fun _ _ kept => lift kept _) fun _ _ kept => kept)

theorem redeem (h : (supply.world lightning).InStep paid x) (settings : Settings)
    {proofs : List (Proof S)} (mine : ∀ p ∈ proofs, x.wallet.store.Knows p) :
    (supply.world lightning).Keeps paid (Wallet.redeem settings proofs) x := by
  have free : ProofStatus.unspent ≠ .spent := nofun
  have exchange (y : Scene S (Mint S × Nat)) (calm : x.Calm y) :
      (supply.world lightning).Keeps paid (do
        let total ← Operation.totalOf proofs
        let parts ← Wallet.split settings proofs total
        return parts.2) y :=
    calm_bind (h.idle calm.idle) (.lift _) fun total z next h => map <|
      splitInto laws h settings free
        (fun p mem => ((mine p mem).of_books calm.books).of_books next.books) total
  refine Ends.ite (fun _ => ?_) fun _ => exchange x (refl x)
  exact calm_bind h (registers_calm.checkDleqs proofs) fun _ y calm _ => exchange y calm

theorem receive (h : (supply.world lightning).InStep paid x) (settings : Settings) {text : String}
    (mine : ∀ token, Token.ofText S text = .ok token → ∀ p ∈ token.proofs, x.wallet.store.Knows p) :
    (supply.world lightning).Keeps paid (Wallet.receive settings text) x := by
  refine .seq (.lift (fun token decoded => ?_) fun _ _ => h.kept)
  rcases token.mints.find? (· ≠ settings.mintUrl) with _ | other
  · exact .seq ((redeem laws h settings (mine token (mapError_eq_ok.1 decoded))).mono
      (fun _ _ kept => lift kept _) fun _ _ kept => kept)
  · exact .throw h.kept

/-- A payment takes what is given and gives the change for it. -/
theorem pay (h : (supply.world lightning).InStep paid x) (settings : Settings)
    {proofs : List (Proof S)} (mine : ∀ p ∈ proofs, x.wallet.store.Knows p) (request : String)
    (feeReserve : Amount) :
    (supply.world lightning).Ends (Wallet.pay lightning settings proofs request feeReserve) x
      (fun payment => (supply.world lightning).Kept
        (paid + (Proof.exactTotal proofs - Proof.exactTotal payment.change)))
      fun _ => (supply.world lightning).Kept paid := by
  refine ((ends_pay lightning settings proofs request feeReserve x).and
    (ends_pay_honoured laws h.faces settings proofs request feeReserve)).mono ?_ ?_
  · rintro payment y ⟨⟨taken, gone, -, -, _, _, _, -, -, -, stored⟩, honoured⟩ all _
    obtain ⟨ys, rows, store, points, made, books, done⟩ := gone.stored
    obtain ⟨ys', accepted, spent⟩ := honoured.taken
    cases points.symm.trans accepted.points
    have added : (supply.world lightning).Added x rows y.drawn :=
      .of_proofs (ProofRow.proofs_of_ofProofs made) (ProofRow.ys_of_ofProofs made)
        (ProofRow.free_of_ofProofs made nofun) honoured.signed gone.secrets gone.drawn
    have kept := added.proofs_of_update (h.fresh_known mine points all) books done
    have stored := (congrArg Store.proofs stored).trans kept
    have moved := h.exchange mine accepted added all stored spent honoured.faces
    rwa [ProofRow.proofs_of_ofProofs made] at moved
  · rintro e y ⟨-, idle⟩ all _
    exact h.idle (idle fun ys points => h.fresh_known mine points all)

end Keeps

end World

end Wallet

end Chaumian
