import Chaumian.Proofs.TokenText
import Chaumian.Proofs.Wallet.Sending

/-!
# A token handed over

Two wallets stand before one mint, each with a store of its own. What one of them sends the other
one receives, and then it is gone from both the books of the sender and the hands of everyone else:
`handover` follows a token from the wallet that sends it, through its text, to the one that receives
it, back to the sender, who finds out that it has been taken, and to whoever tries it again.
-/

namespace Chaumian.Wallet

variable {S : Suite}

/-! ## What a wallet counts -/

theorem value_unspent_reserved (rows : List (ProofRow S)) :
    Store.value [.unspent, .reserved] rows =
      Store.value [.unspent] rows + Store.value [.reserved] rows := by
  induction rows with
  | nil => rfl
  | cons row rest ih =>
    have split (states : List ProofStatus) : Store.value states ([row] ++ rest) =
        Store.value states [row] + Store.value states rest := Store.value_append
    rw [List.singleton_append] at split
    have one : Store.value [.unspent, .reserved] [row] =
        Store.value [.unspent] [row] + Store.value [.reserved] [row] := by
      unfold Store.value
      cases status : row.status <;> simp [status, Proof.exactTotal]
    rw [split, split [.unspent], split [.reserved], ih, one]
    omega

/-- What a wallet counts: the value of all that it holds, of what is free and of what is set
aside. -/
structure World.Balances {τ : Type} (world : World S τ) (x : Scene S τ) (all free aside : Nat) :
    Prop where
  balance : (world.perform Wallet.balance x).1.map Amount.toNat = .ok all
  available : (world.perform availableBalance x).1.map Amount.toNat = .ok free
  reserved : (world.perform reservedBalance x).1.map Amount.toNat = .ok aside

namespace World

variable {τ : Type} {world : World S τ} {x y : Scene S τ}

theorem map_toNat_counted {n m : Nat} :
    (counted n : Except (Error S) Amount).map Amount.toNat = .ok m ↔ n = m ∧ m < 2 ^ 64 := by
  rcases Nat.lt_or_ge n (2 ^ 64) with below | above
  · rw [counted, Amount.ofExact_of_lt below]
    constructor
    · intro same
      cases same
      exact ⟨rfl, below⟩
    · rintro ⟨rfl, -⟩
      rfl
  · rw [counted, Amount.ofExact_of_le above]
    constructor
    · intro same
      cases same
    · rintro ⟨rfl, below⟩
      exact absurd below (Nat.not_lt.2 above)

/-- All of it can be counted if the sum can. -/
theorem balances_iff {all free aside : Nat} : world.Balances x all free aside ↔
    Store.value [.unspent] x.wallet.store.held = free ∧
      Store.value [.reserved] x.wallet.store.held = aside ∧ free + aside = all ∧ all < 2 ^ 64 := by
  have counts (states : List ProofStatus) (n : Nat) :
      (x.wallet.total states).map Amount.toNat = .ok n ↔
        Store.value states x.wallet.store.held = n ∧ n < 2 ^ 64 := by
    rw [total_eq, map_toNat_counted]
  have sum := value_unspent_reserved x.wallet.store.held
  constructor
  · intro h
    obtain ⟨sum', below⟩ := (counts [.unspent, .reserved] all).1 h.balance
    obtain ⟨rfl, -⟩ := (counts [.unspent] free).1 h.available
    obtain ⟨rfl, -⟩ := (counts [.reserved] aside).1 h.reserved
    exact ⟨rfl, rfl, sum.symm.trans sum', below⟩
  · rintro ⟨rfl, rfl, rfl, below⟩
    exact ⟨(counts _ _).2 ⟨sum, below⟩, (counts _ _).2 ⟨rfl, by omega⟩,
      (counts _ _).2 ⟨rfl, by omega⟩⟩

/-- What is available, counted. -/
theorem Balances.counted {all free aside : Nat} (h : world.Balances x all free aside) :
    ∃ a : Amount, Proof.total (x.wallet.held [.unspent]) = .ok a ∧ a.toNat = free := by
  obtain ⟨worth, -, rfl, below⟩ := balances_iff.1 h
  have exact : Proof.exactTotal (x.wallet.held [.unspent]) = free :=
    (Proof.exactTotal_perm (Proof.sortByAmount_perm _)).trans worth
  refine ⟨⟨free, Nat.lt_of_le_of_lt (Nat.le_add_right _ _) below⟩, ?_, rfl⟩
  rw [Proof.total_eq_ofExact, exact]
  exact Amount.ofExact_of_lt _

/-! ## What is received -/

/-- What an exchange for proofs that are all kept does to the value of what is held. -/
theorem Exchanged.value {proofs : List (Proof S)} {ys : List S.Point} {total : Amount}
    {parts : List (Proof S) × List (Proof S)}
    (made : world.Exchanged .unspent proofs total x parts y)
    (counted : Proof.total proofs = .ok total) (points : Proof.ys proofs = .ok ys)
    (fresh : world.Fresh x.drawn y.drawn (knownPoints x.wallet.store ys))
    (states : List ProofStatus) :
    Store.value states y.wallet.store.held =
      Store.value states (x.wallet.store.held.filter (·.y ∉ ys)) +
        if states.contains .unspent then total.toNat else 0 := by
  obtain ⟨kept, sent, store, keptMade, sentMade, -, books, after⟩ := made.exchange_eq points fresh
  obtain ⟨d, total', rest, counted', left, keptParts, sentParts⟩ := made.amounts
  cases counted.symm.trans counted'
  have nothing : Proof.exactTotal parts.1 = 0 := by
    rw [Proof.exactTotal, Denominations.exactSum_decompose keptParts,
      (Amount.toNat_of_sub? left).2, Nat.sub_self]
  have worth : Proof.exactTotal parts.2 = total.toNat :=
    Denominations.exactSum_decompose sentParts
  rw [after, Store.held_exchange, Store.held_of_books books, Store.value_append,
    Store.value_append, (Store.Rows.of_ofProofs keptMade).value,
    (Store.Rows.of_ofProofs sentMade).value, nothing, worth]
  simp

end World

/-! ## Finding out what has been taken -/

namespace World

variable {supply : Supply S} {lightning : Lightning} {x : Scene S (Mint S × Nat)}
  {proofs : List (Proof S)} {ys : List S.Point}

/-- The states of different proofs are those that the mint tells. -/
theorem yields_checkState (points : Proof.ys proofs = .ok ys) (distinct : ys.Nodup) :
    (supply.world lightning).Yields (Wallet.checkState proofs) x
      fun states y => states = (x.mint.1.checkState ⟨ys⟩).states ∧
        ∃ n, y = { x with mint := (x.mint.1, n) } := by
  refine .seq (.known (mapError_eq_ok.2 points) (.seq (yields_ask fun _ =>
    ⟨x.mint.1.checkState ⟨ys⟩, x.mint.1, rfl, fun n => ?_⟩)))
  exact .known (takeStates_of_perm distinct (.refl _)) ⟨rfl, n, rfl⟩

/-- Proofs that the mint has taken are archived. -/
theorem yields_invalidate (points : Proof.ys proofs = .ok ys) (distinct : ys.Nodup)
    (spent : ∀ z ∈ ys, z ∈ x.mint.1.spent) :
    (supply.world lightning).Yields (invalidate proofs true) x
      fun gone y => gone = proofs ∧ ∃ n, y = Scene.withStore { x with mint := (x.mint.1, n) }
        (x.wallet.store.exchange [] ys none) := by
  refine .bind (yields_checkState points distinct) ?_
  rintro _ _ ⟨rfl, n, rfl⟩
  -- No proof is left out, as the mint tells of each of them that it is spent.
  have all : (proofs.zip (x.mint.1.checkState ⟨ys⟩).states).filter (·.2.isSpent) =
      proofs.zip (x.mint.1.checkState ⟨ys⟩).states := by
    rw [List.filter_eq_self]
    rintro ⟨p, s⟩ mem
    obtain ⟨z, listed, rfl⟩ := List.mem_map.1 (List.of_mem_zip mem).2
    simpa [ProofState.isSpent] using spent z listed
  have length : proofs.length ≤ (x.mint.1.checkState ⟨ys⟩).states.length := by
    rw [Mint.checkState, List.length_map, (mapM_eq_ok.1 points).length_eq]
  dsimp only
  rw [all, List.map_fst_zip length]
  exact .seq (.pure (.seq (.known (mapError_eq_ok.2 points)
    (.seq (ends_markSpent (.pure ⟨rfl, n, rfl⟩))))))

/-! ## From one wallet to the other -/

/-- The draws after those of the wallet that has sent something are new to its proofs, too. -/
theorem Handed.fresh {world : World S (Mint S × Nat)} {new : List (Proof S)}
    {y : Scene S (Mint S × Nat)} (handed : Handed world x new y) (points : Proof.ys new = .ok ys)
    {n : Nat} {known : List S.Point} (fresh : world.Fresh x.drawn n known)
    (held : ∀ z ∈ x.wallet.store.held.map (·.y), z ∈ known) :
    world.Fresh y.drawn n (ys ++ known) := by
  obtain ⟨ys', points', -, each⟩ := handed.points
  cases points.symm.trans points'
  refine fresh.after handed.later fun z mem => ?_
  rcases List.mem_append.1 mem with mem | old
  · exact (each z mem).2.imp_left (held z)
  · exact .inl old

variable {G : Type} [AddCommGroup G] (laws : S.Laws G)

include laws

/-- A token of proofs that have not been taken is received, and its value is what is gained. -/
theorem yields_receive (atRest : x.AtRest) (settings : Settings) {text : String} {token : Token S}
    {total : Amount} (decoded : Token.ofText S text = .ok token)
    (own : ∀ mint ∈ token.mints, mint = settings.mintUrl) (positive : total ≠ .zero)
    (counted : Proof.total token.proofs = .ok total) (points : Proof.ys token.proofs = .ok ys)
    (distinct : ys.Nodup) (valid : ∀ p ∈ token.proofs, x.mint.1.Valid p)
    (unspent : ∀ z ∈ ys, z ∉ x.mint.1.spent)
    (regular : supply.Regular x.mint.1 x.drawn (x.drawn + splitDraws))
    (fresh : (supply.world lightning).Fresh x.drawn (x.drawn + splitDraws)
      (knownPoints x.wallet.store ys)) :
    (supply.world lightning).Yields (receive settings text) x fun received y =>
      received = total ∧ y.AtRest ∧ y.mint.1 = { x.mint.1 with spent := x.mint.1.spent ++ ys } ∧
        ∀ states, Store.value states y.wallet.store.held =
          Store.value states (x.wallet.store.held.filter (·.y ∉ ys)) +
            if states.contains .unspent then total.toNat else 0 := by
  refine ((ends_receive settings text x).and (ends_receive_valid laws atRest settings decoded own
    positive counted points distinct valid regular fun _ => fresh)).mono ?_ ?_
  · rintro received y ⟨⟨token', keep, redeemed, z, decoded', -, -, calm, made⟩, rfl, new, renewed⟩
    cases decoded.symm.trans decoded'
    refine ⟨rfl, renewed.atRest, renewed.taken, fun states => ?_⟩
    have fresh : (supply.world lightning).Fresh z.drawn y.drawn
        (knownPoints z.wallet.store ys) := by
      rw [calm.drawn, knownPoints_of_books calm.books]
      exact fresh.of_le renewed.drawn
    rw [made.value counted points fresh, Store.held_of_books calm.books]
  · rintro e y ⟨-, refused⟩
    obtain ⟨z, mem, taken⟩ := refused.spent
    exact unspent z mem taken

/-- Once the proofs of a token have been taken, it is of no use to anyone. -/
theorem refused_receive (atRest : x.AtRest) (settings : Settings) {text : String} {token : Token S}
    {total : Amount} (decoded : Token.ofText S text = .ok token)
    (own : ∀ mint ∈ token.mints, mint = settings.mintUrl) (positive : total ≠ .zero)
    (counted : Proof.total token.proofs = .ok total) (points : Proof.ys token.proofs = .ok ys)
    (distinct : ys.Nodup) (valid : ∀ p ∈ token.proofs, x.mint.1.Valid p)
    (taken : ∃ z ∈ ys, z ∈ x.mint.1.spent)
    (regular : supply.Regular x.mint.1 x.drawn (x.drawn + splitDraws)) :
    ∃ y, (supply.world lightning).perform (receive settings text) x =
        (.error (.doubleSpend "Token already spent."), y) ∧
      y.wallet.store.books = x.wallet.store.books := by
  obtain ⟨z, mem, spent⟩ := taken
  have ended : (supply.world lightning).Ends (receive settings text) x _ _ :=
    ends_receive_valid laws atRest settings decoded own positive counted points distinct valid
      regular fun unspent => absurd spent (unspent z mem)
  rcases ran : (supply.world lightning).perform (receive settings text) x with ⟨e | received, y⟩
  · have refused := ended.error ran
    exact ⟨y, by rw [refused.error], refused.idle.books⟩
  · obtain ⟨-, new, renewed⟩ := ended.ok ran
    exact absurd spent (renewed.unspent z mem)

end World

/-- A wallet with something to send and another one of the same mint, each with a store of its own.
What they are going to draw is new to both, and nothing degenerate comes of it. -/
structure Pair (supply : Supply S) (lightning : Lightning) (x : Scene S (Mint S × Nat))
    (b : Wallet S) : Prop where
  sender : x.AtRest
  receiver : Scene.AtRest { x with wallet := b }
  funded : x.Funded
  oneMint : b.settings.mintUrl = x.wallet.settings.mintUrl
  separate : ∀ row ∈ b.store.held, row.y ∉ x.wallet.store.held.map (·.y)
  regular : supply.Regular x.mint.1 x.drawn (x.drawn + 2 * splitDraws)
  fresh : (supply.world lightning).Fresh x.drawn (x.drawn + 2 * splitDraws)
    (x.mint.1.spent ++ (x.wallet.store.proofs ++ b.store.proofs).map (·.row.y))

namespace Pair

variable {supply : Supply S} {lightning : Lightning} {x y : Scene S (Mint S × Nat)} {b : Wallet S}
  {new : List (Proof S)} {ys : List S.Point}

theorem mem_known {z : S.Point} (mem : z ∈ x.wallet.store.held.map (·.y)) (b : Wallet S) :
    z ∈ x.mint.1.spent ++ (x.wallet.store.proofs ++ b.store.proofs).map (·.row.y) := by
  obtain ⟨row, held, rfl⟩ := List.mem_map.1 mem
  have there := List.mem_append_left b.store.proofs (Store.mem_held.1 held)
  exact List.mem_append_right _ (List.mem_map.2 ⟨_, there, rfl⟩)

/-- What the sender draws is new to it. -/
theorem fresh_send (pair : Pair supply lightning x b) :
    (supply.world lightning).Fresh x.drawn (x.drawn + splitDraws)
      (x.mint.1.spent ++ x.wallet.store.proofs.map (·.row.y)) := by
  refine (pair.fresh.of_le (by omega)).mono fun z known => ?_
  rw [List.map_append, ← List.append_assoc]
  exact List.mem_append_left _ known

/-- What the receiver draws is new to it and to what it receives. -/
theorem fresh_receive (pair : Pair supply lightning x b)
    (handed : World.Handed (supply.world lightning) x new y) (points : Proof.ys new = .ok ys) :
    (supply.world lightning).Fresh y.drawn (y.drawn + splitDraws)
      (World.knownPoints b.store ys) := by
  have later := handed.drawn
  refine ((handed.fresh points pair.fresh fun z mem => mem_known mem b).of_le (by omega)).mono ?_
  intro z known
  refine List.mem_append.2 ((List.mem_append.1 known).imp id fun known => ?_)
  rw [List.map_append]
  exact List.mem_append_right _ (List.mem_append_right _ known)

/-- Nothing that is sent is held by the receiver already. -/
theorem notMem_of_handed (pair : Pair supply lightning x b)
    (handed : World.Handed (supply.world lightning) x new y) (points : Proof.ys new = .ok ys)
    {row : ProofRow S} (held : row ∈ b.store.held) : row.y ∉ ys := by
  intro mem
  obtain ⟨ys', points', -, each⟩ := handed.points
  cases points.symm.trans points'
  obtain ⟨-, own | ⟨i, low, high, point⟩⟩ := each row.y mem
  · exact pair.separate row held own
  · have later := handed.drawn
    refine pair.fresh.new i low (by omega) row.y point (List.mem_append_right _ ?_)
    have there := List.mem_append_right x.wallet.store.proofs (Store.mem_held.1 held)
    exact List.mem_map.2 ⟨_, there, rfl⟩

/-! ## Step by step -/

variable {G : Type} [AddCommGroup G] (laws : S.Laws G) {amount : Amount} {all free aside : Nat}

include laws

theorem exists_send (pair : Pair supply lightning x b) (memo : Option String)
    (before : (supply.world lightning).Balances x all free aside) (positive : amount ≠ .zero)
    (within : amount.toNat ≤ free) :
    ∃ (new : List (Proof S)) (y : Scene S (Mint S × Nat)),
      (supply.world lightning).perform (send x.wallet.settings amount memo) x =
        (.ok ⟨[⟨x.wallet.settings.mintUrl, new⟩], memo⟩, y) ∧
      new ≠ [] ∧ Proof.total new = .ok amount ∧ World.Handed (supply.world lightning) x new y ∧
      (∀ p ∈ new, y.wallet.store.Holds .reserved p) ∧
      (supply.world lightning).Balances y all (free - amount.toNat) (aside + amount.toNat) := by
  obtain ⟨a, counted, rfl⟩ := before.counted
  have regular := pair.regular.mono rfl (Nat.le_refl _) (by omega : x.drawn + splitDraws ≤ _)
  have sends := World.yields_send laws pair.sender pair.funded x.wallet.settings memo positive
    counted within regular pair.fresh_send
  obtain ⟨_, y, ran, parts, rfl, provided, handed⟩ := sends.exists_perform
  have holds (p : Proof S) := pair.funded.offers.holds (p := p)
  have distinct := pair.funded.offers.nodup_secrets
  have fresh := (pair.fresh_send.of_le handed.drawn).mono fun z => List.mem_append_right _
  obtain ⟨selected, -, replaced, -⟩ :=
    provided.replaced positive pair.funded.keyed holds distinct fresh
  have values := provided.value positive pair.funded.keyed holds distinct fresh
  obtain ⟨freeBefore, asideBefore, sum, below⟩ := World.balances_iff.1 before
  have freeAfter : Store.value [.unspent] y.wallet.store.held + amount.toNat = a.toNat := by
    rw [← freeBefore]
    simpa using values [.unspent]
  have asideAfter : Store.value [.reserved] y.wallet.store.held = aside + amount.toNat := by
    rw [← asideBefore]
    simpa using values [.reserved]
  refine ⟨parts.2, y, ran, provided.ne_nil positive, ?_, handed, fun p => replaced.send, ?_⟩
  · rw [Proof.total_eq_ofExact, provided.exactTotal]
    exact Amount.ofExact_of_lt amount.lt
  · exact World.balances_iff.2 ⟨by omega, asideAfter, by omega, below⟩

theorem exists_receive (encodes : S.Encodes) (pair : Pair supply lightning x b)
    (memo : Option String) (some : new ≠ []) (worth : Proof.total new = .ok amount)
    (positive : amount ≠ .zero) (handed : World.Handed (supply.world lightning) x new y)
    (points : Proof.ys new = .ok ys)
    (before : (supply.world lightning).Balances { x with wallet := b } all free aside)
    (room : all + amount.toNat < 2 ^ 64) :
    ∃ z : Scene S (Mint S × Nat), (supply.world lightning).perform
        (receive b.settings (Token.toText ⟨[⟨x.wallet.settings.mintUrl, new⟩], memo⟩))
        { y with wallet := b } = (.ok amount, z) ∧
      z.AtRest ∧ z.mint.1 = { y.mint.1 with spent := y.mint.1.spent ++ ys } ∧
      (supply.world lightning).Balances z (all + amount.toNat) (free + amount.toNat) aside := by
  have proofs : Token.proofs ⟨[⟨x.wallet.settings.mintUrl, new⟩], memo⟩ = new := List.append_nil _
  have decoded := Token.ofText_toText encodes (proofs.symm ▸ some)
  -- Nothing else matters of the text.
  generalize Token.toText ⟨[⟨x.wallet.settings.mintUrl, new⟩], memo⟩ = text at decoded ⊢
  obtain ⟨ys', points', distinct, each⟩ := handed.points
  cases points.symm.trans points'
  have atRest : Scene.AtRest { y with wallet := b } :=
    pair.receiver.later handed.follows y.mint.2 y.drawn y.named
  have later := handed.drawn
  have regular : supply.Regular y.mint.1 y.drawn (y.drawn + splitDraws) :=
    pair.regular.mono handed.follows.keysets handed.later (by omega)
  have fresh := pair.fresh_receive handed points
  have valid := handed.valid
  rw [← proofs] at worth points valid
  have receives := World.yields_receive laws atRest b.settings decoded (fun mint mem => ?_) positive
    worth points distinct valid (fun z mem => (each z mem).1) regular fresh
  · obtain ⟨_, z, ran, rfl, rested, taken, values⟩ := receives.exists_perform
    -- What the receiver held before is not among the proofs of the token, and stays.
    have kept : b.store.held.filter (·.y ∉ ys) = b.store.held := by
      rw [List.filter_eq_self]
      intro row held
      exact decide_eq_true (pair.notMem_of_handed handed points' held)
    dsimp only at values
    rw [kept] at values
    obtain ⟨freeBefore, asideBefore, sum, below⟩ := World.balances_iff.1 before
    refine ⟨z, ran, rested, taken, World.balances_iff.2 ⟨?_, ?_, by omega, room⟩⟩
    · rw [← freeBefore]
      simpa using values [.unspent]
    · rw [← asideBefore]
      simpa using values [.reserved]
  · rw [List.mem_singleton.1 mem]
    exact pair.oneMint.symm

omit laws in
theorem exists_invalidate {z : Scene S (Mint S × Nat)} (worth : Proof.total new = .ok amount)
    (handed : World.Handed (supply.world lightning) x new y)
    (holds : ∀ p ∈ new, y.wallet.store.Holds .reserved p) (points : Proof.ys new = .ok ys)
    (later : z.mint.1.Follows y.mint.1) (taken : ∀ y ∈ ys, y ∈ z.mint.1.spent)
    (before : (supply.world lightning).Balances y all free (aside + amount.toNat)) :
    ∃ w : Scene S (Mint S × Nat), (supply.world lightning).perform (invalidate new true)
        { z with wallet := y.wallet } = (.ok new, w) ∧ w.AtRest ∧
      (∀ row ∈ w.wallet.store.held, row.y ∉ ys) ∧
      (supply.world lightning).Balances w (all - amount.toNat) free aside := by
  obtain ⟨ys', points', distinct, -⟩ := handed.points
  cases points.symm.trans points'
  have done : (supply.world lightning).Yields (invalidate new true)
      { z with wallet := y.wallet } _ := World.yields_invalidate points distinct taken
  obtain ⟨_, _, ran, rfl, n, rfl⟩ := done.exists_perform
  have kept : (y.wallet.store.exchange [] ys none).held = y.wallet.store.held.filter (·.y ∉ ys) :=
    (Store.held_exchange ..).trans (List.append_nil _)
  refine ⟨_, ran, (handed.atRest.later later n z.drawn z.named).withStore rfl, ?_, ?_⟩
  · intro row held
    rw [Scene.store_withStore, kept] at held
    exact of_decide_eq_true (List.mem_filter.1 held).2
  · have values := handed.keyed.value_held holds (Proof.nodup_secrets_of_ys points distinct) points
    rw [Proof.exactTotal_of_total worth, ← kept] at values
    obtain ⟨freeBefore, asideBefore, sum, below⟩ := World.balances_iff.1 before
    have freeAfter := values [.unspent]
    have asideAfter := values [.reserved]
    rw [freeBefore, if_neg (by decide)] at freeAfter
    rw [asideBefore, if_pos (by decide)] at asideAfter
    refine World.balances_iff.2 ⟨?_, ?_, by omega, by omega⟩
    · exact freeAfter.symm
    · exact (Nat.add_right_cancel asideAfter).symm

end Pair

/-- A wallet that has enough sends an amount to another one, whatever proofs it holds. Sending
succeeds, and the amount passes from what is free to what is set aside. The other wallet receives
the text of the token: it answers with the amount, and has that much more. When the sender then
checks the proofs of the token, all of them are archived, and it has that much less. Whatever the
mint is asked for afterwards, every wallet of it that receives the text again is told that the token
has been spent, and its books stay as they are. -/
theorem handover {G : Type} [AddCommGroup G] (laws : S.Laws G) (encodes : S.Encodes)
    {supply : Supply S} {lightning : Lightning} {x : Scene S (Mint S × Nat)} {b : Wallet S}
    (pair : Pair supply lightning x b) {amount : Amount} (memo : Option String)
    {all free aside all' free' aside' : Nat}
    (sender : (supply.world lightning).Balances x all free aside)
    (receiver : (supply.world lightning).Balances { x with wallet := b } all' free' aside')
    (positive : 0 < amount.toNat) (within : amount.toNat ≤ free)
    (room : all' + amount.toNat < 2 ^ 64) :
    ∃ (token : Token S) (y z w : Scene S (Mint S × Nat)),
      (supply.world lightning).perform (send x.wallet.settings amount memo) x = (.ok token, y) ∧
      (supply.world lightning).Balances y all (free - amount.toNat) (aside + amount.toNat) ∧
      (supply.world lightning).perform (receive b.settings token.toText) { y with wallet := b } =
        (.ok amount, z) ∧
      (supply.world lightning).Balances z (all' + amount.toNat) (free' + amount.toNat) aside' ∧
      (supply.world lightning).perform (invalidate token.proofs true)
        { z with wallet := y.wallet } = (.ok token.proofs, w) ∧
      (∀ p ∈ token.proofs, ∀ row ∈ w.wallet.store.held, p.y ≠ .ok row.y) ∧
      (supply.world lightning).Balances w (all - amount.toNat) (free - amount.toNat) aside ∧
      z.AtRest ∧ w.AtRest ∧
      ∀ (calls : List (MintSource S × MintCall S)) (later : Scene S (Mint S × Nat)),
        later.mint.1 = (Mint.serveAll lightning z.mint.1 calls).2 → later.AtRest →
        later.wallet.settings.mintUrl = x.wallet.settings.mintUrl →
        supply.Regular x.mint.1 later.drawn (later.drawn + splitDraws) →
        ∃ after : Scene S (Mint S × Nat),
          (supply.world lightning).perform (receive later.wallet.settings token.toText) later =
            (.error (.doubleSpend "Token already spent."), after) ∧
          after.wallet.store.books = later.wallet.store.books := by
  have positive : amount ≠ .zero := by
    rintro rfl
    exact Nat.lt_irrefl 0 positive
  obtain ⟨new, y, sent, some, worth, handed, holds, sentBalances⟩ :=
    pair.exists_send laws memo sender positive within
  obtain ⟨ys, points, distinct, -⟩ := handed.points
  obtain ⟨z, received, rested, spent, receivedBalances⟩ :=
    pair.exists_receive laws encodes memo some worth positive handed points receiver room
  -- In exchange for what has been received the mint has taken the proofs of the token.
  have taken (y : S.Point) (mem : y ∈ ys) : y ∈ z.mint.1.spent := by
    rw [spent]
    exact List.mem_append_right _ mem
  have follows : z.mint.1.Follows y.mint.1 := by
    rw [spent]
    exact ⟨rfl, fun _ old => List.mem_append_left _ old⟩
  obtain ⟨w, checked, archived, gone, balances⟩ :=
    Pair.exists_invalidate worth handed holds points follows taken sentBalances
  have proofs : Token.proofs ⟨[⟨x.wallet.settings.mintUrl, new⟩], memo⟩ = new := List.append_nil _
  refine ⟨_, y, z, w, sent, sentBalances, received, receivedBalances, proofs.symm ▸ checked, ?_,
    balances, rested, archived, ?_⟩
  · rw [proofs]
    intro p mem row held point
    obtain ⟨y', there, point'⟩ := exists_of_mem_forall₂ (mapM_eq_ok.1 points).flip mem
    have same : y' = row.y := Except.ok.inj (point'.symm.trans point)
    exact gone row held (same ▸ there)
  · intro calls later reached atRest oneMint regular
    -- It is still the same mint, and what it has taken stays taken.
    have since : later.mint.1.Follows z.mint.1 := by
      rw [reached]
      exact Mint.follows_serveAll lightning z.mint.1 calls
    have keysets := (since.trans follows).keysets
    have regular : supply.Regular later.mint.1 later.drawn (later.drawn + splitDraws) :=
      regular.mono (keysets.trans handed.follows.keysets) (Nat.le_refl _) (Nat.le_refl _)
    obtain ⟨p, given⟩ := List.exists_mem_of_ne_nil new some
    obtain ⟨y', mem, -⟩ := exists_of_mem_forall₂ (mapM_eq_ok.1 points).flip given
    refine World.refused_receive laws atRest later.wallet.settings
      (Token.ofText_toText encodes (proofs.symm ▸ some)) (fun mint mem => ?_) positive
      (proofs.symm ▸ worth) (proofs.symm ▸ points) distinct (fun p mem => ?_)
      ⟨y', mem, since.spent y' (taken y' mem)⟩ regular
    · rw [List.mem_singleton.1 mem]
      exact oneMint.symm
    · rw [proofs] at mem
      exact (handed.valid p mem).of_keysets keysets

end Chaumian.Wallet

namespace Chaumian.Sample

open Wallet

/-- The scalars of the prime 65537, with encodings of the size of a public key and challenges up to
16. -/
abbrev wide : Suite :=
  (Suite.scalars 65537 (by decide)).recoded (fun p => 2 :: Scalar.toBytes p)
    (fun bytes => Scalar.ofNat? 65537 (Bytes.toNat (bytes.drop 1)))
    fun ps => (ps.foldl (fun n p => n + Scalar.val p) 0) % 16 + 1

theorem encodes_wide : wide.Encodes := by
  refine Suite.encodes_recoded (fun p : Scalar 65537 => ?_) fun p : Scalar 65537 => ?_
  · rw [List.length_cons, Scalar.toBytes, Bytes.length_ofNat]
    rfl
  · rw [List.drop_one, List.tail_cons, Scalar.toNat_toBytes (by decide)]
    exact Scalar.ofNat?_val p

/-- The scalar of a number. -/
def wideScalar (n : Nat) : wide.Scalar :=
  ⟨n % 256 + 1, Nat.succ_pos _, Nat.lt_of_le_of_lt (Nat.mod_lt n (by decide)) (by decide)⟩

/-- A keyset with a key for each power of two. -/
def wideKeyset : SecretKeyset wide :=
  let entries := (List.range 64).map fun n => (Amount.clamp (2 ^ n), .ofSecret (wideScalar n))
  ⟨(SecretKeyset.publicKeys entries).id, entries⟩

/-- A new mint with that keyset. -/
def wideMint : Mint wide := ⟨Mint.ownInfo, [wideKeyset], [], [], []⟩

theorem sound_wideMint : wideMint.Sound := by
  refine ⟨List.nodup_singleton _, fun keyset mem => ?_⟩
  rw [List.mem_singleton.1 mem]
  decide +kernel

theorem complete_wideMint : wideMint.Complete := by
  refine ⟨List.cons_ne_nil _ _, fun keyset mem => ?_, fun keyset mem a n power => ?_⟩
  · rw [List.mem_singleton.1 mem]
    exact decide_eq_true rfl
  · have below : n < 64 := (Nat.pow_lt_pow_iff_right (by decide)).1 (power ▸ a.lt)
    have same : a = Amount.clamp (2 ^ n) := by
      refine Amount.ext (power.trans (Eq.symm ?_))
      exact Nat.min_eq_left (Nat.le_sub_one_of_lt (Nat.pow_lt_pow_right (by decide) below))
    have all : ∀ n < 64, (wideKeyset.get? (Amount.clamp (2 ^ n))).isSome := by decide +kernel
    rw [List.mem_singleton.1 mem, same]
    exact Option.isSome_iff_exists.1 (all n below)

theorem keyPair_wideMint {amount : Amount} {pair : KeyPair wide}
    (known : wideKeyset.get? amount = some pair) :
    wideMint.keyPair wideKeyset.id amount = .ok pair := by
  have found : wideMint.keysets.find? (·.id = wideKeyset.id) = some wideKeyset :=
    List.find?_cons_of_pos (decide_eq_true rfl)
  rw [Mint.keyPair, found]
  dsimp only
  rw [known]

theorem proves_wideMint (laws : wide.Laws (ZMod 65537)) (blinded : wide.Point) :
    wideMint.Proves (wideScalar 0) blinded := by
  intro keyset mem amount pair known signature _
  rw [List.mem_singleton.1 mem] at known
  obtain ⟨e, found, rfl⟩ := Option.map_eq_some_iff.1 known
  -- With challenges so small, no sum of the nonce and a multiple of a key is 0.
  have few : ∀ e ∈ wideKeyset.entries, 1 + 16 * e.2.secretKey.val < 65537 := by decide +kernel
  refine Dleq.exists_prove laws (fun ps => ⟨Nat.succ_pos _, ?_⟩)
    (few e (List.mem_of_find?_eq_some found)) blinded signature
  exact Nat.mod_lt _ (by decide)

/-- The secret of a character beyond the first 256. -/
def wideSecret (n : Nat) : Secret := ⟨String.singleton (Char.ofNat (256 + n))⟩

/-- These secrets are drawn one after the other, and all else is the same each time. -/
def wideSupply : Supply wide where
  source _ := ⟨fun _ => wideScalar 0, ⟨"", [], 0⟩⟩
  draw n := (wideSecret n, wideScalar 0)
  meltId _ := ""

/-- Their points are the numbers that are spelled by their two bytes. -/
theorem pointOf_wideSecret : ∀ n < 256,
    ((Blind.pointOf wide (wideSecret n).toBytes).map Scalar.val).toOption =
      some ((196 + n / 64) * 256 + (128 + n % 64)) := by
  decide +kernel

theorem regular_wideSupply (laws : wide.Laws (ZMod 65537)) :
    wideSupply.Regular wideMint 0 (2 * splitDraws) := by
  refine ⟨fun n _ high => ?_, fun n _ _ blinded _ _ _ => proves_wideMint laws blinded⟩
  have hidden : ∀ n < 256,
      (Blind.blind wide (wideSecret n).toBytes (wideScalar 0)).isOk = true := by
    decide +kernel
  have hidden := hidden n high
  show ∃ blinded, Blind.blind wide (wideSecret n).toBytes (wideScalar 0) = .ok blinded
  rcases known : Blind.blind wide (wideSecret n).toBytes (wideScalar 0) with e | blinded
  · rw [known] at hidden
    cases hidden
  · exact ⟨blinded, rfl⟩

theorem fresh_wideSupply {known : List wide.Point} (small : ∀ y ∈ known, Scalar.val y ≤ 256) :
    (wideSupply.world clock).Fresh 0 (2 * splitDraws) known := by
  have number (i : Nat) (high : i < 2 * splitDraws) (y : wide.Point)
      (point : Blind.pointOf wide ((wideSupply.world clock).secret i).toBytes = .ok y) :
      Scalar.val y = (196 + i / 64) * 256 + (128 + i % 64) := by
    have spelled := pointOf_wideSecret i high
    change Blind.pointOf wide (wideSecret i).toBytes = .ok y at point
    rw [point] at spelled
    exact Option.some.inj spelled
  refine ⟨fun i _ high y point old => ?_, fun i _ high j _ high' y point point' => ?_⟩
  · have spelled := number i high y point
    have below := small y old
    omega
  · have spelled := number i high y point
    have spelled' := number j high' y point'
    omega

/-- A proof of an amount with the secret of a letter. -/
def wideProof (amount n : Nat) : Proof wide :=
  ⟨Amount.clamp amount, wideKeyset.id, secret n,
    ((wideKeyset.get? (Amount.clamp amount)).bind fun pair =>
      wide.mul? pair.secretKey (wideScalar (96 + n))).getD (wideScalar 0), none⟩

/-- The row of that proof. -/
def wideRow (amount n : Nat) : ProofRow wide :=
  ⟨wideProof amount n, wideScalar (96 + n), .unspent, none, none⟩

/-- A wallet that holds proofs of 4 and 8, before that mint. -/
def purse : Scene wide (Mint wide × Nat) where
  wallet := .ofStore .default ⟨[], [], [], [⟨wideRow 4 0, false⟩, ⟨wideRow 8 1, false⟩]⟩
  mint := (wideMint, 0)
  drawn := 0
  named := 0

theorem funded_purse : purse.Funded := by
  have rows : purse.wallet.store.held = [wideRow 4 0, wideRow 8 1] := rfl
  have valid (amount n : Nat) (verified : ((wideKeyset.get? (Amount.clamp amount)).map fun pair =>
      Blind.verify wide pair.secretKey (wideProof amount n).signature (secret n).toBytes) =
        some (.ok ())) : wideMint.Valid (wideProof amount n) := by
    obtain ⟨pair, known, verified⟩ := Option.map_eq_some_iff.1 verified
    exact ⟨pair, keyPair_wideMint known, verified, nofun⟩
  refine ⟨?_, ?_⟩
  · rw [Store.Keyed, rows]
    decide +kernel
  · rw [rows]
    refine List.forall_mem_cons.2 ⟨fun _ => ?_, List.forall_mem_singleton.2 fun _ => ?_⟩
    · exact ⟨by decide +kernel, valid 4 0 (by decide +kernel), List.not_mem_nil⟩
    · exact ⟨by decide +kernel, valid 8 1 (by decide +kernel), List.not_mem_nil⟩

/-- Of the 12 it holds it sends 3. The other wallet receives them, and a third one that comes by
the token is told that it has been spent. -/
theorem handover_purse : ∃ (token : Token wide) (y z w after : Scene wide (Mint wide × Nat)),
    (wideSupply.world clock).perform (send .default (.clamp 3) (some "for tea")) purse =
      (.ok token, y) ∧
    (wideSupply.world clock).Balances y 12 9 3 ∧
    (wideSupply.world clock).perform (receive .default token.toText)
      { y with wallet := .ofStore .default .empty } = (.ok (.clamp 3), z) ∧
    (wideSupply.world clock).Balances z 3 3 0 ∧
    (wideSupply.world clock).perform (invalidate token.proofs true)
      { z with wallet := y.wallet } = (.ok token.proofs, w) ∧
    (wideSupply.world clock).Balances w 9 9 0 ∧
    (wideSupply.world clock).perform (receive .default token.toText)
      ⟨.ofStore .default .empty, z.mint, 0, 0⟩ =
        (.error (.doubleSpend "Token already spent."), after) := by
  have laws : wide.Laws (ZMod 65537) := by
    have : Fact (Nat.Prime 65537) := ⟨by norm_num⟩
    exact (Suite.lawsOfScalars (by decide)).recoded _ _ _
  have regular := regular_wideSupply laws
  have atRest : Scene.AtRest { purse with wallet := .ofStore .default .empty } :=
    ⟨⟨sound_wideMint, List.forall_mem_nil _⟩, complete_wideMint, rfl⟩
  have pair : Pair wideSupply clock purse (.ofStore .default .empty) :=
    ⟨⟨⟨sound_wideMint, List.forall_mem_nil _⟩, complete_wideMint, rfl⟩, atRest, funded_purse, rfl,
      List.forall_mem_nil _, regular, fresh_wideSupply (by decide +kernel)⟩
  have sender : (wideSupply.world clock).Balances purse 12 12 0 :=
    World.balances_iff.2 (by decide +kernel)
  have receiver : (wideSupply.world clock).Balances
      { purse with wallet := .ofStore .default .empty } 0 0 0 :=
    World.balances_iff.2 (by decide +kernel)
  obtain ⟨token, y, z, w, sent, sentBalances, received, receivedBalances, checked, -, balances,
    rested, -, again⟩ := handover laws encodes_wide pair (some "for tea") sender receiver
      (by decide : 0 < (Amount.clamp 3).toNat) (by decide) (by decide)
  obtain ⟨after, refused, -⟩ := again [] ⟨.ofStore .default .empty, z.mint, 0, 0⟩ rfl
    ⟨⟨rested.sound, List.forall_mem_nil _⟩, rested.complete, rfl⟩ rfl
    (regular.mono rfl (Nat.le_refl _)
      (by decide : 0 + splitDraws ≤ 2 * splitDraws))
  exact ⟨token, y, z, w, after, sent, sentBalances, received, receivedBalances, checked, balances,
    refused⟩

end Chaumian.Sample
