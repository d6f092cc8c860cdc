import Chaumian.Proofs.Wallet.Granted

/-!
# A wallet and its mint agree

What a wallet has rows of and what its mint has taken are in step: `InStep` says how, and each way
in which both change at once keeps it. Every row is of a secret of the wallet's own and signed by
the mint; the mint has taken exactly the proofs that are archived; and the proofs that are held are
worth what the mint has signed for invoices, less what was paid.
-/

namespace Chaumian

variable {S : Suite}

/-- The store has a row of the secret and the amount of a proof, held or archived. -/
def Store.Knows (store : Store S) (p : Proof S) : Prop :=
  ∃ q ∈ store.proofs, q.row.proof.secret = p.secret ∧ q.row.proof.amount = p.amount

/-- The amount of the proof under a point, and nothing where there is none. -/
def Store.amountAt (store : Store S) (y : S.Point) : Nat :=
  (store.proofs.find? (·.row.y = y)).elim 0 (·.row.proof.amount.toNat)

theorem Store.amountAt_eq {store : Store S} (distinct : (store.proofs.map (·.row.y)).Nodup)
    {p : StoredProof S} (mem : p ∈ store.proofs) :
    store.amountAt p.row.y = p.row.proof.amount.toNat := by
  have found : store.proofs.find? (·.row.y = p.row.y) = some p := find?_of_nodup distinct mem
  rw [amountAt, found]
  rfl

/-- The value of the quotes that a mint has signed for. -/
def Mint.issuedValue (m : Mint S) : Nat :=
  Amount.exactSum ((m.quotes.filter (·.minted)).map (·.amount))

/-- Marking a quote leaves the names as they are. -/
theorem Mint.map_id_mark (id : String) (quotes : List IssuedQuote) :
    (quotes.map fun q => if q.id = id then { q with minted := true } else q).map (·.id) =
      quotes.map (·.id) := by
  rw [List.map_map]
  refine List.map_congr_left fun q _ => ?_
  rw [Function.comp_apply]
  split <;> rfl

/-- Marking a quote that was not minted adds its amount. -/
theorem Mint.exactSum_mark {quotes : List IssuedQuote} (ids : (quotes.map (·.id)).Nodup)
    {quote : IssuedQuote} (mem : quote ∈ quotes) (unminted : quote.minted = false) :
    Amount.exactSum (((quotes.map fun q => if q.id = quote.id then { q with minted := true } else q)
        |>.filter (·.minted)).map (·.amount)) =
      Amount.exactSum ((quotes.filter (·.minted)).map (·.amount)) + quote.amount.toNat := by
  induction quotes with
  | nil => cases mem
  | cons q rest ih =>
    obtain ⟨apart, ids⟩ := List.nodup_cons.1 ids
    rcases List.mem_cons.1 mem with rfl | mem
    · -- No other quote has that name.
      have others : (rest.map fun q =>
          if q.id = quote.id then { q with minted := true } else q) = rest := by
        refine (List.map_congr_left fun q mem => ?_).trans (List.map_id rest)
        exact if_neg fun same => apart (List.mem_map.2 ⟨q, mem, same⟩)
      rw [List.map_cons, if_pos rfl, others, List.filter_cons_of_pos rfl,
        List.filter_cons_of_neg (by simp [unminted]), List.map_cons, Amount.exactSum_cons]
      exact Nat.add_comm _ _
    · have other : q.id ≠ quote.id := fun same => apart (List.mem_map.2 ⟨quote, mem, same.symm⟩)
      have ih := ih ids mem
      rw [List.map_cons, if_neg other]
      by_cases minted : q.minted = true
      · rw [List.filter_cons_of_pos minted, List.filter_cons_of_pos minted, List.map_cons,
          List.map_cons, Amount.exactSum_cons, Amount.exactSum_cons, ih, Nat.add_assoc]
      · rw [List.filter_cons_of_neg minted, List.filter_cons_of_neg minted, ih]

theorem Mint.issuedValue_mark {m : Mint S} (ids : (m.quotes.map (·.id)).Nodup) {id : String}
    {quote : IssuedQuote} (quoted : m.quote? id = some quote) (unminted : quote.minted = false) :
    issuedValue { m with
        quotes := m.quotes.map fun q => if q.id = id then { q with minted := true } else q } =
      m.issuedValue + quote.amount.toNat := by
  have same : quote.id = id := by simpa using List.find?_some quoted
  rw [← same]
  exact exactSum_mark ids (List.mem_of_find?_eq_some quoted) unminted

theorem Mint.Signed.of_keysets {m m' : Mint S} (same : m'.keysets = m.keysets) {p : Proof S}
    (h : m.Signed p) : m'.Signed p := by
  unfold Mint.Signed Mint.keyPair at h ⊢
  rw [same]
  exact h

namespace Wallet

/-- What there is to a row, held or archived, of a wallet that is in step with its mint after some
draws. -/
structure World.Matches {τ : Type} (world : World S τ) (m : Mint S) (drawn : Nat)
    (p : StoredProof S) : Prop where
  point : p.row.proof.y = .ok p.row.y
  own : ∃ i < drawn, world.secret i = p.row.proof.secret
  signed : m.Signed p.row.proof
  spent : p.archived = true ↔ p.row.y ∈ m.spent
  free : p.archived = false → p.row.status ≠ .spent

/-- A wallet and its mint are in step, when so much has been paid. -/
structure World.InStep (world : World S (Mint S × Nat)) (paid : Int)
    (x : Scene S (Mint S × Nat)) : Prop where
  faces : x.Faces
  distinct : (x.wallet.store.proofs.map (·.row.y)).Nodup
  each : ∀ p ∈ x.wallet.store.proofs, world.Matches x.mint.1 x.drawn p
  known : ∀ y ∈ x.mint.1.spent, y ∈ x.wallet.store.proofs.map (·.row.y)
  ids : (x.mint.1.quotes.map (·.id)).Nodup
  balanced : (Proof.exactTotal (x.wallet.store.held.map (·.proof)) : Int) + paid =
    x.mint.1.issuedValue

/-- Rows of new secrets that a wallet adds when it has drawn `n` times. -/
structure World.Added (world : World S (Mint S × Nat)) (x : Scene S (Mint S × Nat))
    (rows : List (ProofRow S)) (n : Nat) : Prop where
  points : Proof.ys (rows.map (·.proof)) = .ok (rows.map (·.y))
  free : ∀ row ∈ rows, row.status ≠ .spent
  signed : ∀ row ∈ rows, x.mint.1.Signed row.proof
  secrets : (rows.map (·.proof)).map (·.secret) =
    (List.range' x.drawn (rows.map (·.proof)).length).map world.secret
  within : x.drawn + (rows.map (·.proof)).length ≤ n

theorem World.Added.point {world : World S (Mint S × Nat)} {x : Scene S (Mint S × Nat)}
    {rows : List (ProofRow S)} {n : Nat} (h : world.Added x rows n) {row : ProofRow S}
    (mem : row ∈ rows) : row.proof.y = .ok row.y := by
  have points := List.forall₂_map_right_iff.1 (List.forall₂_map_left_iff.1 (mapM_eq_ok.1 h.points))
  exact List.forall₂_same.1 points row mem

namespace World.InStep

variable {world : World S (Mint S × Nat)} {paid : Int} {x y : Scene S (Mint S × Nat)}

theorem start {m : Mint S} (sound : m.Sound) (spent : m.spent = []) (quotes : m.quotes = [])
    (settings : Settings) : world.InStep 0 ⟨.ofStore settings .empty, (m, 0), 0, 0⟩ where
  faces := ⟨sound, fun _ mem => nomatch mem⟩
  distinct := .nil
  each := fun _ mem => nomatch mem
  known := by
    intro y mem
    rw [spent] at mem
    cases mem
  ids := by
    rw [quotes]
    exact .nil
  balanced := by
    rw [Mint.issuedValue, quotes]
    rfl

/-- Nothing is out of step as long as the mint takes nothing and signs nothing, and the rows
stay. -/
theorem of_proofs (h : world.InStep paid x)
    (proofs : y.wallet.store.proofs = x.wallet.store.proofs) (faces : y.Faces)
    (drawn : x.drawn ≤ y.drawn) (keysets : y.mint.1.keysets = x.mint.1.keysets)
    (spent : y.mint.1.spent = x.mint.1.spent) (ids : (y.mint.1.quotes.map (·.id)).Nodup)
    (issued : y.mint.1.issuedValue = x.mint.1.issuedValue) : world.InStep paid y := by
  refine ⟨faces, ?_, fun p mem => ?_, ?_, ids, ?_⟩
  · rw [proofs]
    exact h.distinct
  · obtain ⟨point, ⟨i, below, own⟩, signed, taken, free⟩ := h.each p (proofs ▸ mem)
    exact ⟨point, ⟨i, Nat.lt_of_lt_of_le below drawn, own⟩, signed.of_keysets keysets,
      spent.symm ▸ taken, free⟩
  · rw [spent, proofs]
    exact h.known
  · rw [issued, Store.held, proofs]
    exact h.balanced

theorem idle (h : world.InStep paid x) (idle : x.Idle y) : world.InStep paid y :=
  h.of_proofs (congrArg Prod.fst idle.books) (idle.faces h.faces) idle.drawn
    (congrArg Mint.keysets idle.mint) (congrArg Mint.spent idle.mint) (idle.mint.symm ▸ h.ids)
    (congrArg Mint.issuedValue idle.mint)

theorem keyed (h : world.InStep paid x) : x.wallet.store.Keyed := by
  have sub : (x.wallet.store.held.map (·.y)).Sublist (x.wallet.store.proofs.map (·.row.y)) := by
    rw [Store.held, List.map_map]
    exact List.filter_sublist.map _
  exact h.distinct.sublist sub

/-- Changing the states of proofs that are held. -/
theorem modifyAll (h : world.InStep paid x) {f : StoredProof S → StoredProof S}
    (keeps : ∀ p, (f p).row.proof = p.row.proof ∧ (f p).row.y = p.row.y ∧
      (f p).archived = p.archived)
    (free : ∀ p, p.row.status ≠ .spent → (f p).row.status ≠ .spent) (ys : List S.Point) :
    world.InStep paid (x.withStore (x.wallet.store.modifyAll f ys)) := by
  refine ⟨⟨h.faces.sound, h.faces.registered⟩, ?_, fun p mem => ?_, ?_, h.ids, ?_⟩
  · rw [Scene.store_withStore, Store.map_ys_modifyAll fun p => (keeps p).2.1]
    exact h.distinct
  · obtain ⟨q, there, rfl⟩ := List.mem_map.1 mem
    have matched := h.each q there
    split
    · obtain ⟨sameProof, sameY, sameArchived⟩ := keeps q
      refine ⟨?_, ?_, ?_, ?_, ?_⟩
      · rw [sameProof, sameY]
        exact matched.point
      · rw [sameProof]
        exact matched.own
      · rw [sameProof]
        exact matched.signed
      · rw [sameArchived, sameY]
        exact matched.spent
      · rw [sameArchived]
        exact fun held => free q (matched.free held)
    · exact matched
  · rw [Scene.store_withStore, Store.map_ys_modifyAll fun p => (keeps p).2.1]
    exact h.known
  · rw [Scene.store_withStore, Store.map_held_modifyAll (fun p => (keeps p).1)
      fun p => (keeps p).2.2]
    exact h.balanced

theorem reserve (h : world.InStep paid x) {ys : List S.Point} {store : Store S}
    (reserved : x.wallet.store.reserve ys = .ok store) : world.InStep paid (x.withStore store) := by
  rw [(Store.reserve_eq_ok reserved).2]
  exact h.modifyAll (f := StoredProof.withStatus .reserved) (fun _ => ⟨rfl, rfl, rfl⟩)
    (fun _ _ => nofun) ys

theorem unreserve (h : world.InStep paid x) (ys : List S.Point) :
    world.InStep paid (x.withStore (x.wallet.store.unreserve ys)) := by
  rw [Store.unreserve_eq h.keyed]
  refine h.modifyAll (fun p => ⟨Store.freed_proof p, Store.freed_y p, Store.freed_archived p⟩)
    (fun p held => ?_) ys
  unfold Store.freed
  split
  · exact nofun
  · exact held

/-! ## Points that are known -/

/-- What is drawn from here on has no point that the wallet has a row of. -/
theorem fresh (h : world.InStep paid x) {n : Nat} (all : world.Fresh 0 n []) :
    world.Fresh x.drawn n (x.wallet.store.proofs.map (·.row.y)) := by
  refine ⟨fun i low high y point old => ?_, fun i low high j low' high' =>
    all.distinct i (Nat.zero_le i) high j (Nat.zero_le j) high'⟩
  obtain ⟨p, mem, rfl⟩ := List.mem_map.1 old
  obtain ⟨j, below, own⟩ := (h.each p mem).own
  have same : Blind.pointOf S (world.secret j).toBytes = .ok p.row.y := own ▸ (h.each p mem).point
  have := all.distinct i (Nat.zero_le i) high j (Nat.zero_le j) (by omega) _ point same
  omega

/-- Proofs that the store knows have the points of their rows. -/
theorem exists_row (h : world.InStep paid x) {given : List (Proof S)}
    (mine : ∀ p ∈ given, x.wallet.store.Knows p) {ys : List S.Point}
    (points : Proof.ys given = .ok ys) :
    List.Forall₂ (fun p y => ∃ q ∈ x.wallet.store.proofs, q.row.y = y ∧
      q.row.proof.amount = p.amount) given ys := by
  refine List.forall₂_iff_zip.2 ⟨(mapM_eq_ok.1 points).length_eq, fun {p y} mem => ?_⟩
  have point : p.y = .ok y := (List.forall₂_iff_zip.1 (mapM_eq_ok.1 points)).2 mem
  obtain ⟨q, there, secret, amount⟩ := mine p (List.of_mem_zip mem).1
  have same : q.row.proof.y = p.y := by rw [Proof.y, secret, Proof.y]
  rw [(h.each q there).point, point] at same
  cases same
  exact ⟨q, there, rfl, amount⟩

theorem mem_of_points (h : world.InStep paid x) {given : List (Proof S)}
    (mine : ∀ p ∈ given, x.wallet.store.Knows p) {ys : List S.Point}
    (points : Proof.ys given = .ok ys) {y : S.Point} (mem : y ∈ ys) :
    y ∈ x.wallet.store.proofs.map (·.row.y) := by
  obtain ⟨_, -, q, there, same, -⟩ := exists_of_mem_forall₂ (h.exists_row mine points) mem
  exact List.mem_map.2 ⟨q, there, same⟩

theorem fresh_known (h : world.InStep paid x) {given : List (Proof S)}
    (mine : ∀ p ∈ given, x.wallet.store.Knows p) {ys : List S.Point}
    (points : Proof.ys given = .ok ys) {n : Nat} (all : world.Fresh 0 n []) :
    world.Fresh x.drawn n (World.knownPoints x.wallet.store ys) := by
  refine ⟨fun i low high y point old => ?_, (h.fresh all).distinct⟩
  rcases List.mem_append.1 old with old | old
  · exact (h.fresh all).new i low high y point (h.mem_of_points mine points old)
  · exact (h.fresh all).new i low high y point old

/-- Proofs that the mint takes are held, and the rows that are held under their points are worth
what they are worth. -/
theorem total_given (h : world.InStep paid x) {given : List (Proof S)}
    (mine : ∀ p ∈ given, x.wallet.store.Knows p) {ys : List S.Point}
    (accepted : x.mint.1.Accepts given ys) :
    Proof.exactTotal ((x.wallet.store.held.filter (·.y ∈ ys)).map (·.proof)) =
      Proof.exactTotal given := by
  have ofGiven : given.map (·.amount.toNat) = ys.map x.wallet.store.amountAt :=
    map_eq_of_forall₂ (h.exists_row mine accepted.points) fun p y ⟨q, there, same, amount⟩ => by
      rw [← amount, ← same, Store.amountAt_eq h.distinct there]
  have ofRows : (x.wallet.store.held.filter (·.y ∈ ys)).map (·.proof.amount.toNat) =
      ((x.wallet.store.held.filter (·.y ∈ ys)).map (·.y)).map x.wallet.store.amountAt := by
    rw [List.map_map]
    refine List.map_congr_left fun row mem => ?_
    have there := Store.mem_held.1 (List.mem_filter.1 mem).1
    exact (Store.amountAt_eq h.distinct there).symm
  have samePoints : ((x.wallet.store.held.filter (·.y ∈ ys)).map (·.y)).Perm ys := by
    have distinct : ((x.wallet.store.held.filter (·.y ∈ ys)).map (·.y)).Nodup :=
      List.Nodup.sublist (List.filter_sublist.map _) h.keyed
    refine (List.perm_ext_iff_of_nodup distinct accepted.distinct).2 fun y => ?_
    simp only [List.mem_map, List.mem_filter, decide_eq_true_eq]
    constructor
    · rintro ⟨row, ⟨-, mem⟩, rfl⟩
      exact mem
    · intro mem
      obtain ⟨_, -, ⟨row, archived⟩, there, rfl, -⟩ :=
        exists_of_mem_forall₂ (h.exists_row mine accepted.points) mem
      -- What is archived has been taken before, and would not be taken again.
      have held : archived = false := by
        rw [Bool.eq_false_iff]
        exact fun gone => accepted.unspent row.y mem ((h.each _ there).spent.1 gone)
      subst held
      exact ⟨row, ⟨Store.mem_held.2 there, mem⟩, rfl⟩
  unfold Proof.exactTotal Amount.exactSum
  rw [List.map_map, List.map_map, List.map_map]
  show (List.map (fun row : ProofRow S => row.proof.amount.toNat) _).sum =
    (given.map (·.amount.toNat)).sum
  rw [ofGiven, ofRows]
  exact (samePoints.map _).sum_nat

/-! ## Changes on both sides -/

/-- A row that was there is archived when the mint has taken its proof. -/
theorem matches_old (h : world.InStep paid x) {m : Mint S} {ys : List S.Point} {n : Nat}
    (keysets : m.keysets = x.mint.1.keysets) (taken : m.spent = x.mint.1.spent ++ ys)
    (drawn : x.drawn ≤ n) (meltId : Option String) {p : StoredProof S}
    (there : p ∈ x.wallet.store.proofs) :
    world.Matches m n
      (if p.row.y ∈ ys ∧ !p.archived then Store.StoredProof.archive meltId p else p) := by
  obtain ⟨point, ⟨i, below, own⟩, signed, spent, free⟩ := h.each p there
  have own : ∃ i < n, world.secret i = p.row.proof.secret :=
    ⟨i, Nat.lt_of_lt_of_le below drawn, own⟩
  split
  · rename_i gone
    refine ⟨point, own, signed.of_keysets keysets, ?_, fun held => nomatch held⟩
    rw [taken]
    exact iff_of_true rfl (List.mem_append_right _ gone.1)
  · rename_i stays
    refine ⟨point, own, signed.of_keysets keysets, ?_, free⟩
    rw [taken, List.mem_append]
    refine ⟨fun gone => .inl (spent.1 gone), fun mem => mem.elim spent.2 fun mem => ?_⟩
    by_contra held
    exact stays ⟨mem, by simpa using held⟩

/-- A new row is held, and its proof has not been taken. -/
theorem matches_new {m : Mint S} {rows : List (ProofRow S)} {n : Nat}
    (added : world.Added x rows n) (keysets : m.keysets = x.mint.1.keysets) {row : ProofRow S}
    (listed : row ∈ rows) (untaken : row.y ∉ m.spent) : world.Matches m n ⟨row, false⟩ := by
  have drawn : row.proof.secret ∈ (rows.map (·.proof)).map (·.secret) :=
    List.mem_map_of_mem (List.mem_map_of_mem listed)
  rw [added.secrets] at drawn
  obtain ⟨i, below, own⟩ := List.mem_map.1 drawn
  have below : i < n := Nat.lt_of_lt_of_le (List.mem_range'_1.1 below).2 added.within
  exact ⟨added.point listed, ⟨i, below, own⟩, (added.signed row listed).of_keysets keysets,
    iff_of_false Bool.false_ne_true untaken, fun _ => added.free row listed⟩

/-- Rows are added and others archived, when the mint has taken the proofs of the latter: every row
is again what it should be. -/
theorem matches_add (h : world.InStep paid x) {rows : List (ProofRow S)} {ys : List S.Point}
    {meltId : Option String} (added : world.Added x rows y.drawn) (all : world.Fresh 0 y.drawn [])
    (mine : ∀ z ∈ ys, z ∈ x.wallet.store.proofs.map (·.row.y))
    (stored : y.wallet.store.proofs = (x.wallet.store.exchange rows ys meltId).proofs)
    (keysets : y.mint.1.keysets = x.mint.1.keysets)
    (taken : y.mint.1.spent = x.mint.1.spent ++ ys) :
    (y.wallet.store.proofs.map (·.row.y)).Nodup ∧
      (∀ p ∈ y.wallet.store.proofs, world.Matches y.mint.1 y.drawn p) ∧
      ∀ z ∈ y.mint.1.spent, z ∈ y.wallet.store.proofs.map (·.row.y) := by
  have new (row : ProofRow S) (mem : row ∈ rows) :
      row.y ∉ x.wallet.store.proofs.map (·.row.y) :=
    (h.fresh all).notMem added.within added.secrets added.points (List.mem_map_of_mem mem)
  have points : y.wallet.store.proofs.map (·.row.y) =
      x.wallet.store.proofs.map (·.row.y) ++ rows.map (·.y) := by
    rw [stored, Store.map_ys_exchange]
  -- All that the mint has taken are points of older rows.
  have old (z : S.Point) (mem : z ∈ y.mint.1.spent) : z ∈ x.wallet.store.proofs.map (·.row.y) := by
    rw [taken] at mem
    rcases List.mem_append.1 mem with mem | mem
    · exact h.known z mem
    · exact mine z mem
  refine ⟨?_, fun p mem => ?_, fun z mem => ?_⟩
  · rw [points]
    refine List.nodup_append.2 ⟨h.distinct,
      (h.fresh all).nodup added.within added.secrets added.points, fun z there z' mem same => ?_⟩
    obtain ⟨row, listed, rfl⟩ := List.mem_map.1 mem
    exact new row listed (same ▸ there)
  · rw [stored, Store.exchange] at mem
    rcases List.mem_append.1 mem with mem | mem
    · obtain ⟨q, there, rfl⟩ := List.mem_map.1 mem
      exact h.matches_old keysets taken (Nat.le_trans (Nat.le_add_right _ _) added.within) meltId
        there
    · obtain ⟨row, listed, rfl⟩ := List.mem_map.1 mem
      exact matches_new added keysets listed fun gone => new row listed (old _ gone)
  · rw [points]
    exact List.mem_append_left _ (old z mem)

/-- What is held is worth less by what was given and more by what is new. -/
theorem total_exchange (store : Store S) (rows : List (ProofRow S)) (ys : List S.Point)
    (meltId : Option String) :
    Proof.exactTotal ((store.exchange rows ys meltId).held.map (·.proof)) +
        Proof.exactTotal ((store.held.filter (·.y ∈ ys)).map (·.proof)) =
      Proof.exactTotal (store.held.map (·.proof)) + Proof.exactTotal (rows.map (·.proof)) := by
  -- What is held parts into what is given and the others, which stay.
  have parted := List.filter_append_perm (fun row : ProofRow S => decide (row.y ∈ ys)) store.held
  have parted := parted.map (·.proof)
  rw [← Proof.exactTotal_perm parted, List.map_append, Proof.exactTotal_append,
    Store.held_exchange, List.map_append, Proof.exactTotal_append]
  have others : store.held.filter (·.y ∉ ys) = store.held.filter fun row => !decide (row.y ∈ ys) :=
    List.filter_congr fun row _ => decide_not
  rw [others]
  omega

/-- The mint has taken proofs of the wallet and signed others in return. -/
theorem exchange (h : world.InStep paid x) {given : List (Proof S)}
    (mine : ∀ p ∈ given, x.wallet.store.Knows p) {ys : List S.Point}
    (accepted : x.mint.1.Accepts given ys) {rows : List (ProofRow S)} {meltId : Option String}
    (added : world.Added x rows y.drawn) (all : world.Fresh 0 y.drawn [])
    (stored : y.wallet.store.proofs = (x.wallet.store.exchange rows ys meltId).proofs)
    (taken : y.mint.1 = { x.mint.1 with spent := x.mint.1.spent ++ ys }) (faces : y.Faces) :
    world.InStep (paid + (Proof.exactTotal given - Proof.exactTotal (rows.map (·.proof)))) y := by
  obtain ⟨distinct, each, known⟩ := h.matches_add added all
    (fun z => h.mem_of_points mine accepted.points) stored (by rw [taken]) (by rw [taken])
  refine ⟨faces, distinct, each, known, ?_, ?_⟩
  · rw [taken]
    exact h.ids
  · have held : y.wallet.store.held = (x.wallet.store.exchange rows ys meltId).held :=
      congrArg (fun all => (all.filter (!·.archived)).map (·.row)) stored
    have total := total_exchange x.wallet.store rows ys meltId
    have worth := h.total_given mine accepted
    have balanced := h.balanced
    have issued : y.mint.1.issuedValue = x.mint.1.issuedValue := by
      rw [taken]
      rfl
    rw [held, issued]
    omega

/-- The mint has signed for a quote. -/
theorem issue (h : world.InStep paid x) {id : String} {quote : IssuedQuote}
    (quoted : x.mint.1.quote? id = some quote) (unminted : quote.minted = false)
    {rows : List (ProofRow S)} {meltId : Option String} (added : world.Added x rows y.drawn)
    (all : world.Fresh 0 y.drawn [])
    (value : Proof.exactTotal (rows.map (·.proof)) = quote.amount.toNat)
    (stored : y.wallet.store.proofs = (x.wallet.store.exchange rows [] meltId).proofs)
    (marked : y.mint.1 = { x.mint.1 with quotes := x.mint.1.quotes.map fun q =>
      if q.id = id then { q with minted := true } else q }) (faces : y.Faces) :
    world.InStep paid y := by
  obtain ⟨distinct, each, known⟩ := h.matches_add added all
    (fun _ none => (List.not_mem_nil none).elim) stored (by rw [marked])
    (by rw [marked, List.append_nil])
  refine ⟨faces, distinct, each, known, ?_, ?_⟩
  · rw [marked, Mint.map_id_mark]
    exact h.ids
  · have held : y.wallet.store.held = (x.wallet.store.exchange rows [] meltId).held :=
      congrArg (fun all => (all.filter (!·.archived)).map (·.row)) stored
    have total := total_exchange x.wallet.store rows [] meltId
    have none : x.wallet.store.held.filter (·.y ∈ []) = [] := by simp
    have balanced := h.balanced
    have issued := Mint.issuedValue_mark h.ids quoted unminted
    rw [← marked] at issued
    rw [none] at total
    rw [held, issued]
    simp only [List.map_nil, Proof.exactTotal, Amount.exactSum_nil] at total value balanced ⊢
    omega

end World.InStep

end Wallet

end Chaumian
