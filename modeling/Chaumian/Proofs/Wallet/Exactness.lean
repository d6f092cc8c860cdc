import Chaumian.Proofs.Wallet.Session

/-!
# What a wallet holds after it has provided an exact amount

Proofs of an exact amount are provided in one of two ways, and in either of two states. In terms of
the rows that are held it is always the same: those of the selected proofs are replaced by rows of
the proofs to keep and to send (`Store.Replaced`). All balances follow from that, and so does
`splitToSend_exact`, whatever the mint answers.
-/

namespace Chaumian

namespace Store

variable {S : Suite} {store store' : Store S} {status : ProofStatus} {states : List ProofStatus}
  {rows others : List (ProofRow S)} {proofs : List (Proof S)} {ys : List S.Point}

/-! ## The value of rows -/

/-- The exact value of those of some rows that are in some states. -/
def value (states : List ProofStatus) (rows : List (ProofRow S)) : Nat :=
  Proof.exactTotal ((rows.filter (states.contains ·.status)).map (·.proof))

theorem value_append :
    value states (rows ++ others) = value states rows + value states others := by
  unfold value
  rw [List.filter_append, List.map_append, Proof.exactTotal_append]

theorem value_perm (h : rows.Perm others) : value states rows = value states others :=
  Proof.exactTotal_perm ((h.filter _).map _)

/-- Rows of proofs that are in a state, each under the point of its secret. -/
structure Rows (status : ProofStatus) (proofs : List (Proof S)) (rows : List (ProofRow S)) :
    Prop where
  proofs : (rows.map (·.proof)).Perm proofs
  each : ∀ row ∈ rows, row.proof.y = .ok row.y ∧ row.status = status

theorem Rows.value (h : Rows status proofs rows) : Store.value states rows =
    if states.contains status then Proof.exactTotal proofs else 0 := by
  unfold Store.value
  split
  · rename_i counted
    have all : rows.filter (states.contains ·.status) = rows := by
      refine List.filter_eq_self.2 fun row mem => ?_
      rw [(h.each row mem).2]
      exact counted
    rw [all, Proof.exactTotal_perm h.proofs]
  · rename_i uncounted
    have none : rows.filter (states.contains ·.status) = [] := by
      refine List.filter_eq_nil_iff.2 fun row mem => ?_
      rw [(h.each row mem).2]
      exact uncounted
    rw [none]
    rfl

theorem Rows.of_ofProofs {mintId : Option String}
    (made : ProofRow.ofProofs proofs status mintId = .ok rows) : Rows status proofs rows := by
  constructor
  · rw [ProofRow.proofs_of_ofProofs made]
  · intro row mem
    obtain ⟨-, point, same, -⟩ := ProofRow.of_mem_ofProofs made mem
    exact ⟨point, same⟩

/-- The same rows in another state. -/
theorem Rows.withStatus (h : Rows status proofs rows) (status' : ProofStatus) :
    Rows status' proofs (rows.map fun row => { row with status := status' }) := by
  constructor
  · rw [List.map_map]
    exact h.proofs
  · intro row mem
    obtain ⟨old, there, rfl⟩ := List.mem_map.1 mem
    exact ⟨(h.each old there).1, rfl⟩

/-- Whether a proof is held in some state, under the point of its secret. -/
def Holds (store : Store S) (status : ProofStatus) (p : Proof S) : Prop :=
  ∃ row ∈ store.held, row.proof = p ∧ p.y = .ok row.y ∧ row.status = status

theorem Rows.holds (h : Rows status proofs rows) (held : ∀ row ∈ rows, row ∈ store.held)
    {p : Proof S} (mem : p ∈ proofs) : store.Holds status p := by
  obtain ⟨row, there, rfl⟩ := List.mem_map.1 (h.proofs.mem_iff.2 mem)
  obtain ⟨point, same⟩ := h.each row there
  exact ⟨row, held row there, rfl, point, same⟩

/-- The rows of proofs with different secrets that are held in some states are those that are held
under their points. -/
theorem Keyed.proofs_of_holds (keyed : store.Keyed)
    (holds : ∀ p ∈ proofs, ∃ status ∈ states, store.Holds status p)
    (distinct : (proofs.map (·.secret)).Nodup) (points : Proof.ys proofs = .ok ys) :
    ((store.held.filter (·.y ∈ ys)).map (·.proof)).Perm proofs ∧
      ∀ row ∈ store.held.filter (·.y ∈ ys), row.proof.y = .ok row.y ∧ row.status ∈ states := by
  have points := mapM_eq_ok.1 points
  have same {row row' : ProofRow S} (mem : row ∈ store.held) (mem' : row' ∈ store.held)
      (y : row.y = row'.y) : row = row' := List.inj_on_of_nodup_map keyed mem mem' y
  have each (row : ProofRow S) (mem : row ∈ store.held.filter (·.y ∈ ys)) :
      row.proof ∈ proofs ∧ row.proof.y = .ok row.y ∧ row.status ∈ states := by
    obtain ⟨there, mem⟩ := List.mem_filter.1 mem
    obtain ⟨p, given, point⟩ := exists_of_mem_forall₂ points (of_decide_eq_true mem)
    obtain ⟨_, counted, row', there', rfl, point', rfl⟩ := holds p given
    obtain rfl := same there there' (Except.ok.inj (point.symm.trans point'))
    exact ⟨given, point', counted⟩
  refine ⟨?_, fun row mem => (each row mem).2⟩
  rw [List.perm_ext_iff_of_nodup ?_ distinct.of_map]
  · intro p
    constructor
    · intro mem
      obtain ⟨row, there, rfl⟩ := List.mem_map.1 mem
      exact (each row there).1
    · intro mem
      obtain ⟨_, -, row, there, rfl, point, -⟩ := holds p mem
      obtain ⟨y, given, point'⟩ := exists_of_mem_forall₂ points.flip mem
      obtain rfl := Except.ok.inj (point.symm.trans point')
      exact List.mem_map_of_mem (List.mem_filter.2 ⟨there, decide_eq_true given⟩)
  · refine List.Nodup.map_on ?_ (keyed.of_map.filter _)
    intro row mem row' mem' equal
    have point := (each row mem).2.1
    rw [equal, (each row' mem').2.1] at point
    exact same (List.mem_filter.1 mem).1 (List.mem_filter.1 mem').1 (Except.ok.inj point).symm

theorem Keyed.rows_of_holds (keyed : store.Keyed) (holds : ∀ p ∈ proofs, store.Holds status p)
    (distinct : (proofs.map (·.secret)).Nodup) (points : Proof.ys proofs = .ok ys) :
    Rows status proofs (store.held.filter (·.y ∈ ys)) := by
  obtain ⟨perm, each⟩ := keyed.proofs_of_holds
    (fun p mem => ⟨status, List.mem_singleton_self status, holds p mem⟩) distinct points
  exact ⟨perm, fun row mem => ⟨(each row mem).1, List.mem_singleton.1 (each row mem).2⟩⟩

/-- What is held under some points and what is held besides, by value. -/
theorem value_filter (store : Store S) (ys : List S.Point) (states : List ProofStatus) :
    value states store.held = value states (store.held.filter (·.y ∉ ys)) +
      value states (store.held.filter (·.y ∈ ys)) := by
  have parted := List.filter_append_perm (fun row : ProofRow S => decide (row.y ∉ ys)) store.held
  simp only [← decide_not, not_not] at parted
  rw [← value_perm parted, value_append]

/-- Proofs that are held in any of the states that are counted make up for their value. -/
theorem Keyed.value_given (keyed : store.Keyed)
    (holds : ∀ p ∈ proofs, ∃ status ∈ states, store.Holds status p)
    (distinct : (proofs.map (·.secret)).Nodup) (points : Proof.ys proofs = .ok ys) :
    value states store.held =
      value states (store.held.filter (·.y ∉ ys)) + Proof.exactTotal proofs := by
  obtain ⟨perm, each⟩ := keyed.proofs_of_holds holds distinct points
  have all : (store.held.filter (·.y ∈ ys)).filter (states.contains ·.status) =
      store.held.filter (·.y ∈ ys) :=
    List.filter_eq_self.2 fun row mem => List.contains_iff_mem.2 (each row mem).2
  rw [value_filter store ys, value.eq_1 states (store.held.filter (·.y ∈ ys)), all,
    Proof.exactTotal_perm perm]

/-- What is held is worth these proofs and all that is held besides. -/
theorem Keyed.value_held (keyed : store.Keyed) (holds : ∀ p ∈ proofs, store.Holds status p)
    (distinct : (proofs.map (·.secret)).Nodup) (points : Proof.ys proofs = .ok ys)
    (states : List ProofStatus) :
    Store.value states store.held = Store.value states (store.held.filter (·.y ∉ ys)) +
      if states.contains status then Proof.exactTotal proofs else 0 := by
  rw [value_filter store ys, (keyed.rows_of_holds holds distinct points).value]

/-! ## Rows that are replaced -/

/-- From one store to another one, the rows of some proofs have been replaced by rows of proofs to
keep, which are unspent, and of proofs to send. -/
structure Replaced (before : Store S) (selected : List (Proof S)) (status : ProofStatus)
    (parts : List (Proof S) × List (Proof S)) (after : Store S) : Prop where
  rows : ∃ (ys : List S.Point) (kept sent : List (ProofRow S)), Proof.ys selected = .ok ys ∧
    after.held.Perm (before.held.filter (·.y ∉ ys) ++ (kept ++ sent)) ∧
    Rows .unspent parts.1 kept ∧ Rows status parts.2 sent

section Replaced

variable {selected : List (Proof S)} {parts : List (Proof S) × List (Proof S)}

theorem Replaced.keep (h : store.Replaced selected status parts store') {p : Proof S}
    (mem : p ∈ parts.1) : store'.Holds .unspent p := by
  obtain ⟨ys, kept, sent, -, held, keptRows, -⟩ := h.rows
  refine keptRows.holds (fun row there => held.mem_iff.2 ?_) mem
  exact List.mem_append_right _ (List.mem_append_left _ there)

theorem Replaced.send (h : store.Replaced selected status parts store') {p : Proof S}
    (mem : p ∈ parts.2) : store'.Holds status p := by
  obtain ⟨ys, kept, sent, -, held, -, sentRows⟩ := h.rows
  refine sentRows.holds (fun row there => held.mem_iff.2 ?_) mem
  exact List.mem_append_right _ (List.mem_append_right _ there)

/-- Rows that are left alone stand for themselves. -/
theorem Replaced.whole (keyed : store.Keyed) (holds : ∀ p ∈ selected, store.Holds .unspent p)
    (distinct : (selected.map (·.secret)).Nodup) (books : store'.books = store.books) :
    store.Replaced selected .unspent ([], selected) store' := by
  obtain ⟨ys, points⟩ := Proof.exists_ys fun p mem =>
    (holds p mem).imp' ProofRow.y fun _ h => h.2.2.1
  refine ⟨⟨ys, [], _, points, ?_, ⟨.nil, nofun⟩, keyed.rows_of_holds holds distinct points⟩⟩
  have parted := List.filter_append_perm (fun row : ProofRow S => decide (row.y ∉ ys)) store.held
  rw [List.nil_append, held_of_books books]
  simpa using parted.symm

/-- Rows that are set aside are replaced by the same ones in another state. -/
theorem Replaced.aside {before : Store S} (keyed : store.Keyed)
    (holds : ∀ p ∈ selected, store.Holds .unspent p)
    (distinct : (selected.map (·.secret)).Nodup) (points : Proof.ys selected = .ok ys)
    (books : before.books = store.books) (reserved : before.reserve ys = .ok store') :
    store.Replaced selected .reserved ([], selected) store' := by
  have rows := keyed.rows_of_holds holds distinct points
  refine ⟨⟨ys, [], _, points, ?_, ⟨.nil, nofun⟩, rows.withStatus .reserved⟩⟩
  rw [(reserve_eq_ok reserved).2, List.nil_append, ← held_of_books books]
  exact held_withStatus_perm .reserved ys

/-- What is held in some states after the replacement, if the proofs were held unspent. -/
theorem Replaced.value (h : store.Replaced selected status parts store') (keyed : store.Keyed)
    (holds : ∀ p ∈ selected, store.Holds .unspent p)
    (distinct : (selected.map (·.secret)).Nodup) (states : List ProofStatus) :
    Store.value states store'.held +
        (if states.contains .unspent then Proof.exactTotal selected else 0) =
      Store.value states store.held +
        (if states.contains .unspent then Proof.exactTotal parts.1 else 0) +
        (if states.contains status then Proof.exactTotal parts.2 else 0) := by
  obtain ⟨ys, kept, sent, points, held, keptRows, sentRows⟩ := h.rows
  have before := keyed.value_held holds distinct points states
  rw [value_perm held, value_append, value_append, keptRows.value, sentRows.value]
  omega

end Replaced

end Store

namespace Wallet

variable {S : Suite} {τ : Type} {world : World S τ} {x y : Scene S τ}

/-- The amount of a number as a wallet counts it. -/
def counted (n : Nat) : Except (Error S) Amount := (Amount.ofExact n).mapError .ofAmount

theorem nodup_secrets_of_subperm {selected available : List (Proof S)}
    (some : selected.Subperm available) (distinct : (available.map (·.secret)).Nodup) :
    (selected.map (·.secret)).Nodup := by
  obtain ⟨taken, perm, sub⟩ := some
  exact (perm.map _).nodup_iff.1 (distinct.sublist (sub.map _))

theorem total_eq (w : Wallet S) (states : List ProofStatus) :
    w.total states = counted (Store.value states w.store.held) := by
  rw [total, held, Proof.total_eq_ofExact, Proof.exactTotal_perm (Proof.sortByAmount_perm _)]
  rfl

namespace World

variable {available : List (Proof S)} {amount : Amount} {reserve : Bool}
  {parts : List (Proof S) × List (Proof S)}

/-- What the proofs are that have been provided. -/
theorem Provided.amounts (h : world.Provided available amount reserve x parts y)
    (positive : amount ≠ .zero) : parts.2.map (·.amount.toNat) =
      Denominations.binaryParts amount.toNat := by
  cases h with
  | whole chosen exact canonical _ _ =>
    obtain ⟨d, canonical⟩ := canonical
    have digits := Denominations.map_toNat_of_isCanonical canonical
      (selectToCover_sorted positive chosen)
    rw [List.map_map] at digits
    rw [← exact]
    exact digits
  | exchanged _ _ _ _ _ made =>
    obtain ⟨d, _, _, -, -, -, sent⟩ := made.amounts
    have digits := Denominations.map_toNat_decompose sent
    rw [List.map_map] at digits
    exact digits

/-- What is kept makes up for what the selected proofs are worth beyond the amount. -/
theorem Provided.exactTotal_keep (h : world.Provided available amount reserve x parts y)
    {selected : List (Proof S)} (chosen : selectToCover available amount = .ok selected) :
    Proof.exactTotal parts.1 + amount.toNat = Proof.exactTotal selected := by
  cases h with
  | whole chosen' exact _ _ _ =>
    cases chosen.symm.trans chosen'
    exact (Nat.zero_add _).trans exact.symm
  | exchanged chosen' _ _ _ _ made =>
    cases chosen.symm.trans chosen'
    obtain ⟨d, total, rest, added, left, kept, -⟩ := made.amounts
    have kept : Proof.exactTotal parts.1 = rest.toNat := Denominations.exactSum_decompose kept
    have added := Proof.exactTotal_of_total added
    obtain ⟨within, left⟩ := Amount.toNat_of_sub? left
    omega

/-- What an exchange has done to the books if the secrets that were drawn are new: the rows of the
new proofs stand behind the others. -/
theorem Exchanged.exchange_eq {status : ProofStatus} {proofs : List (Proof S)} {ys : List S.Point}
    (made : world.Exchanged status proofs amount x parts y) (points : Proof.ys proofs = .ok ys)
    (fresh : world.Fresh x.drawn y.drawn (knownPoints x.wallet.store ys)) :
    ∃ (kept sent : List (ProofRow S)) (store : Store S),
      ProofRow.ofProofs parts.1 .unspent none = .ok kept ∧
      ProofRow.ofProofs parts.2 status none = .ok sent ∧
      Proof.ys (parts.1 ++ parts.2) = .ok ((kept ++ sent).map (·.y)) ∧
      store.books = x.wallet.store.books ∧
      y.wallet.store = store.exchange (kept ++ sent) ys none := by
  obtain ⟨_, kept, sent, store, points', keptMade, sentMade, books, stored⟩ := made.stored
  cases points.symm.trans points'
  have rowPoints := Proof.ys_append (ProofRow.ys_of_ofProofs keptMade)
    (ProofRow.ys_of_ofProofs sentMade)
  rw [← List.map_append] at rowPoints
  have updated := fresh.update (Nat.le_of_eq made.drawn.symm) made.secrets rowPoints books none
  exact ⟨kept, sent, store, keptMade, sentMade, rowPoints, books,
    Except.ok.inj (stored.symm.trans updated)⟩

/-- What is new to the points that a store has rows of is new to those of proofs it holds, too. -/
theorem Fresh.of_holds {n m : Nat} {store : Store S} {proofs : List (Proof S)} {ys : List S.Point}
    (fresh : world.Fresh n m (store.proofs.map (·.row.y)))
    (holds : ∀ p ∈ proofs, ∃ status, store.Holds status p) (points : Proof.ys proofs = .ok ys) :
    world.Fresh n m (knownPoints store ys) := by
  refine ⟨fun i low high y point known => fresh.new i low high y point ?_, fresh.distinct⟩
  obtain given | known := List.mem_append.1 known
  · obtain ⟨p, mem, point⟩ := exists_of_mem_forall₂ (mapM_eq_ok.1 points) given
    obtain ⟨_, row, held, -, point', -⟩ := holds p mem
    obtain rfl := Except.ok.inj (point'.symm.trans point)
    exact List.mem_map.2 ⟨_, Store.mem_held.1 held, rfl⟩
  · exact known

/-- Proofs that have been set aside and then exchanged are replaced by what has come of that, and
archived. -/
theorem Exchanged.replaced {store aside : Store S} {status : ProofStatus}
    {selected : List (Proof S)} {ys : List S.Point}
    (made : world.Exchanged status selected amount x parts y)
    (holds : ∀ p ∈ selected, store.Holds .unspent p) (points : Proof.ys selected = .ok ys)
    (books : aside.books = store.books) (reserved : aside.reserve ys = .ok x.wallet.store)
    (fresh : world.Fresh x.drawn y.drawn (knownPoints x.wallet.store ys)) :
    store.Replaced selected status parts y.wallet.store ∧
      ∀ p ∈ selected, ∃ row ∈ y.wallet.store.archive,
        row.proof = p ∧ p.y = .ok row.y ∧ row.status = .spent := by
  have reserved := (Store.reserve_eq_ok reserved).2
  obtain ⟨kept, sent, before, keptMade, sentMade, -, same, after⟩ := made.exchange_eq points fresh
  rw [after]
  refine ⟨⟨⟨ys, kept, sent, points, ?_, .of_ofProofs keptMade, .of_ofProofs sentMade⟩⟩,
    fun p mem => ?_⟩
  · rw [Store.held_exchange, Store.held_of_books same, reserved, Store.filter_held_withStatus,
      Store.held_of_books books]
  · -- The proof was held unspent, and set aside when the exchange was made.
    obtain ⟨row, held, rfl, point, -⟩ := holds p mem
    obtain ⟨y, given, point'⟩ := exists_of_mem_forall₂ (mapM_eq_ok.1 points).flip mem
    obtain rfl := Except.ok.inj (point.symm.trans point')
    have setAside : { row with status := .reserved } ∈ before.held := by
      rw [Store.held_of_books same, reserved,
        Store.held_modifyAll (f := StoredProof.withStatus .reserved) fun _ => rfl,
        Store.held_of_books books]
      exact List.mem_map.2 ⟨row, held, if_pos given⟩
    exact ⟨_, Store.mem_archive_exchange.2 (.inr ⟨_, setAside, given, rfl⟩), rfl, point, rfl⟩

/-- In which way proofs of an amount have been provided out of proofs that are held unspent: either
way the rows of the selected proofs have been replaced. -/
theorem Provided.replaced (h : world.Provided available amount reserve x parts y)
    (positive : amount ≠ .zero) (keyed : x.wallet.store.Keyed)
    (holds : ∀ p ∈ available, x.wallet.store.Holds .unspent p)
    (distinct : (available.map (·.secret)).Nodup)
    (fresh : world.Fresh x.drawn y.drawn (x.wallet.store.proofs.map (·.row.y))) :
    ∃ selected, selectToCover available amount = .ok selected ∧
      x.wallet.store.Replaced selected (if reserve then .reserved else .unspent) parts
        y.wallet.store ∧
      (parts.1 = [] ∧ parts.2 = selected ∧ y.wallet.store.archive = x.wallet.store.archive ∨
        ∀ p ∈ selected, ∃ row ∈ y.wallet.store.archive,
          row.proof = p ∧ p.y = .ok row.y ∧ row.status = .spent) := by
  have chosenOf {selected : List (Proof S)}
      (chosen : selectToCover available amount = .ok selected) :
      (∀ p ∈ selected, x.wallet.store.Holds .unspent p) ∧ (selected.map (·.secret)).Nodup := by
    have some := selectToCover_subperm positive chosen
    exact ⟨fun p mem => holds p (some.subset mem), nodup_secrets_of_subperm some distinct⟩
  cases h with
  | @whole selected y chosen exact canonical unused aside =>
    obtain ⟨holds, distinct⟩ := chosenOf chosen
    refine ⟨selected, chosen, ?_⟩
    cases reserve with
    | true =>
      obtain ⟨ys, store, points, books, reserved⟩ := aside
      refine ⟨.aside keyed holds distinct points books reserved, .inl ⟨rfl, rfl, ?_⟩⟩
      rw [(Store.reserve_eq_ok reserved).2, ← Store.archive_of_books books]
      exact Store.archive_modifyAll (f := StoredProof.withStatus .reserved) (fun _ => rfl) ys
    | false =>
      exact ⟨.whole keyed holds distinct aside, .inl ⟨rfl, rfl, Store.archive_of_books aside⟩⟩
  | @exchanged selected ys store z parts y chosen points books aside unused made =>
    obtain ⟨holds, distinct⟩ := chosenOf chosen
    -- Setting proofs aside makes no point known that was not known before.
    have proofsKnown : z.wallet.store.proofs.map (·.row.y) =
        x.wallet.store.proofs.map (·.row.y) := by
      rw [(Store.reserve_eq_ok aside).2, Store.map_ys_withStatus]
      exact congrArg (fun b => b.1.map (·.row.y)) books
    have fresh : world.Fresh z.drawn y.drawn (knownPoints z.wallet.store ys) := by
      rw [knownPoints, proofsKnown, unused]
      exact fresh.of_holds (fun p mem => ⟨_, holds p mem⟩) points
    obtain ⟨replaced, archived⟩ := made.replaced holds points books aside fresh
    exact ⟨selected, chosen, replaced, .inr archived⟩

/-- What providing an amount does to the value of all that is held in some states: the amount passes
from what is unspent to what the proofs to send are. -/
theorem Provided.value (h : world.Provided available amount reserve x parts y)
    (positive : amount ≠ .zero) (keyed : x.wallet.store.Keyed)
    (holds : ∀ p ∈ available, x.wallet.store.Holds .unspent p)
    (distinct : (available.map (·.secret)).Nodup)
    (fresh : world.Fresh x.drawn y.drawn (x.wallet.store.proofs.map (·.row.y)))
    (states : List ProofStatus) :
    Store.value states y.wallet.store.held +
        (if states.contains .unspent then amount.toNat else 0) =
      Store.value states x.wallet.store.held +
        (if states.contains (if reserve then .reserved else .unspent) then amount.toNat
          else 0) := by
  obtain ⟨selected, chosen, replaced, -⟩ := h.replaced positive keyed holds distinct fresh
  have some := selectToCover_subperm positive chosen
  have value := replaced.value keyed (fun p mem => holds p (some.subset mem))
    (nodup_secrets_of_subperm some distinct) states
  have worth := h.exactTotal_keep chosen
  have sent : Proof.exactTotal parts.2 = amount.toNat := h.exactTotal
  rw [sent] at value
  split at value
  · rename_i counted
    rw [if_pos counted]
    omega
  · rename_i uncounted
    rw [if_neg uncounted]
    omega

end World

/-- What comes of providing an exact amount out of proofs that are held unspent, if it succeeds and
the secrets that were drawn are new, whatever the mint answers. The amounts to send are the digits
of the amount; either nothing has been exchanged and nothing is to be kept, or the proofs selected
have been archived and what is left of them is to be kept. What is to be kept is held unspent and
what is to be sent is reserved if that is asked for. All that is held has the value it had, and if
it is asked for, the amount has passed from what is available to what is reserved. -/
theorem splitToSend_exact {settings : Settings} {available keep send : List (Proof S)}
    {amount : Amount} {reserve : Bool} (keyed : x.wallet.store.Keyed)
    (holds : ∀ p ∈ available, x.wallet.store.Holds .unspent p)
    (distinct : (available.map (·.secret)).Nodup)
    (ran : world.perform (splitToSend settings available amount reserve) x = (.ok (keep, send), y))
    (fresh : world.Fresh x.drawn y.drawn (x.wallet.store.proofs.map (·.row.y))) :
    send.map (·.amount.toNat) = Denominations.binaryParts amount.toNat ∧
      (∃ selected, selectToCover available amount = .ok selected ∧
        (keep = [] ∧ send = selected ∧ y.wallet.store.archive = x.wallet.store.archive ∨
          Proof.exactTotal keep + amount.toNat = Proof.exactTotal selected ∧
          ∀ p ∈ selected, ∃ row ∈ y.wallet.store.archive,
            row.proof = p ∧ p.y = .ok row.y ∧ row.status = .spent)) ∧
      (∀ p ∈ send, y.wallet.store.Holds (if reserve then .reserved else .unspent) p) ∧
      (∀ p ∈ keep, y.wallet.store.Holds .unspent p) ∧
      (world.perform balance y).1 = (world.perform balance x).1 ∧
      ∃ free aside : Nat, amount.toNat ≤ free ∧
        (world.perform availableBalance x).1 = counted free ∧
        (world.perform reservedBalance x).1 = counted aside ∧
        (world.perform availableBalance y).1 =
          counted (if reserve then free - amount.toNat else free) ∧
        (world.perform reservedBalance y).1 =
          counted (if reserve then aside + amount.toNat else aside) := by
  obtain ⟨positive, provided⟩ :=
    (World.ends_splitToSend settings available amount reserve x keyed).ok ran
  obtain ⟨selected, chosen, replaced, moved⟩ :=
    provided.replaced positive keyed holds distinct fresh
  have worth : Proof.exactTotal keep + amount.toNat = Proof.exactTotal selected :=
    provided.exactTotal_keep chosen
  have selectedHeld : ∀ p ∈ selected, x.wallet.store.Holds .unspent p :=
    fun p mem => holds p ((selectToCover_subperm positive chosen).subset mem)
  have secrets : (selected.map (·.secret)).Nodup :=
    nodup_secrets_of_subperm (selectToCover_subperm positive chosen) distinct
  have values (states : List ProofStatus) :=
    provided.value positive keyed holds distinct fresh states
  have all : Store.value [.unspent, .reserved] y.wallet.store.held =
      Store.value [.unspent, .reserved] x.wallet.store.held := by
    have value := values [.unspent, .reserved]
    cases reserve <;> simp at value <;> omega
  have free : Store.value [.unspent] y.wallet.store.held = if reserve then
      Store.value [.unspent] x.wallet.store.held - amount.toNat
      else Store.value [.unspent] x.wallet.store.held := by
    have value := values [.unspent]
    cases reserve <;> simp at value ⊢ <;> omega
  have aside : Store.value [.reserved] y.wallet.store.held = if reserve then
      Store.value [.reserved] x.wallet.store.held + amount.toNat
      else Store.value [.reserved] x.wallet.store.held := by
    have value := values [.reserved]
    cases reserve <;> simpa using value
  have within : amount.toNat ≤ Store.value [.unspent] x.wallet.store.held := by
    obtain ⟨ys, -, -, points, -⟩ := replaced.rows
    have value := keyed.value_held selectedHeld secrets points [.unspent]
    rw [if_pos (by decide : [ProofStatus.unspent].contains .unspent = true)] at value
    omega
  refine ⟨provided.amounts positive, ⟨selected, chosen, ?_⟩, fun p => replaced.send,
    fun p => replaced.keep, ?_, _, _, within, total_eq _ _, total_eq _ _,
    (total_eq y.wallet [.unspent]).trans (congrArg counted free),
    (total_eq y.wallet [.reserved]).trans (congrArg counted aside)⟩
  · exact moved.imp id fun archived => ⟨worth, archived⟩
  · have same := congrArg (counted (S := S)) all
    rw [← total_eq, ← total_eq] at same
    exact same

end Wallet

namespace Sample

open Wallet

/-- A wallet that holds proofs of 4 and 8, before the sample mint. What it draws are the letters
from the tenth on. -/
def ready : Scene suite (Mint suite × Nat) := ⟨wallet [4, 8], (mint, 0), 10, 0⟩

/-- What comes of sending 3 out of them. -/
def sending : Except (Wallet.Error suite) (List (Proof suite) × List (Proof suite)) ×
    Scene suite (Mint suite × Nat) :=
  (supply.world clock).perform (splitToSend .default [proof 4 0, proof 8 1] (.clamp 3) true) ready

set_option maxRecDepth 4000

/-- The proof of 4 is exchanged: 1 is kept, and 1 and 2 are reserved. -/
theorem sending_exact : ∃ keep send, sending.1 = .ok (keep, send) ∧
    send.map (·.amount.toNat) = [1, 2] ∧ Proof.exactTotal keep = 1 ∧
    (∀ p ∈ send, sending.2.wallet.store.Holds .reserved p) ∧
    ((supply.world clock).perform balance sending.2).1 =
      ((supply.world clock).perform balance ready).1 := by
  obtain ⟨⟨keep, send⟩, ran⟩ := (supply.world clock).perform_of_isOk
    (splitToSend .default [proof 4 0, proof 8 1] (.clamp 3) true) ready (by decide +kernel)
  have keyed : (ready.wallet.store.held.map (·.y)).Nodup := by decide +kernel
  have holds : ∀ p ∈ [proof 4 0, proof 8 1], ready.wallet.store.Holds .unspent p := by
    intro p mem
    simp only [List.mem_cons, List.not_mem_nil, or_false] at mem
    obtain rfl | rfl := mem
    · exact ⟨⟨proof 4 0, point 0, .unspent, none, none⟩, by decide +kernel, rfl,
        by decide +kernel, rfl⟩
    · exact ⟨⟨proof 8 1, point 1, .unspent, none, none⟩, by decide +kernel, rfl,
        by decide +kernel, rfl⟩
  have fresh : (supply.world clock).Fresh ready.drawn sending.2.drawn
      (ready.wallet.store.proofs.map (·.row.y)) :=
    .of_points (by decide +kernel) (by decide +kernel)
  obtain ⟨digits, ⟨selected, chosen, made⟩, sent, -, same, -⟩ :=
    splitToSend_exact keyed holds (by decide +kernel) ran fresh
  have selected_eq : selectToCover [proof 4 0, proof 8 1] (.clamp 3) = .ok [proof 4 0] := by
    decide +kernel
  cases selected_eq.symm.trans chosen
  refine ⟨keep, send, congrArg Prod.fst ran, digits.trans (by decide +kernel), ?_, sent, same⟩
  obtain ⟨-, rfl, -⟩ | ⟨worth, -⟩ := made
  · exact absurd digits (by decide +kernel)
  · exact Nat.add_right_cancel (worth.trans (by decide +kernel : _ = 1 + (Amount.clamp 3).toNat))

end Sample

end Chaumian
