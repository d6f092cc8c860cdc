import Chaumian.Proofs.Mint.Requests
import Chaumian.Proofs.Scalars

/-!
# A mint neither creates value nor takes a proof twice

A mint is asked for anything by anyone, in any order. What it has answered is its ledger, and all
that is said of the mint is read off there:

* what it has signed and the invoices it has paid are worth no more than the quotes it has minted
  and the proofs it has taken;
* a quote is minted once at most, and for its amount;
* no proof is taken twice, and exactly those that were taken are said to be spent;
* a request that is refused changes nothing.
-/

namespace Chaumian.Mint

open Wallet (MintCall)

variable {S : Suite}

/-! ## The ledger -/

/-- An invoice that was issued. -/
structure Issuance where
  id : String
  request : String
  amount : Amount

/-- What the answer to a call has moved. -/
structure Entry (S : Suite) where
  issued : List Issuance := []
  /-- The quotes that proofs were minted for. -/
  minted : List String := []
  /-- The value of the signatures. -/
  signed : Nat := 0
  /-- The proofs that were taken. -/
  inputs : List (Proof S) := []
  /-- The payment requests that were paid. -/
  paid : List String := []

/-- The exact value of promises. -/
def promised (promises : List (Promise S)) : Nat := Amount.exactSum (promises.map (·.amount))

/-- What an answer to a call has moved; nothing, where the mint has refused or only told
something. -/
def entry : (call : MintCall S) → Except Refusal call.Result → Entry S
  | .quote request, .ok answer =>
    { issued := [⟨answer.id, answer.paymentRequest, request.amount⟩] }
  | .mint request, .ok answer =>
    { minted := [request.id], signed := promised answer.promises }
  | .split request, .ok answer =>
    { inputs := request.proofs, signed := promised answer.promises }
  | .melt request, .ok answer =>
    { inputs := request.proofs, signed := promised answer.change, paid := [request.paymentRequest] }
  | _, _ => {}

/-- The ledger of a mint that meets calls one after the other, and the mint afterwards. -/
def serveAll (lightning : Lightning) : Mint S → List (MintSource S × MintCall S) →
    List (Entry S) × Mint S
  | m, [] => ([], m)
  | m, (source, call) :: rest =>
    let (answer, m) := m.serve lightning source call
    let (ledger, m) := serveAll lightning m rest
    (entry call answer :: ledger, m)

namespace Ledger

/-- The invoices that were issued, the first one first. -/
def issued (ledger : List (Entry S)) : List Issuance := ledger.flatMap (·.issued)

/-- The quotes that proofs were minted for. -/
def minted (ledger : List (Entry S)) : List String := ledger.flatMap (·.minted)

/-- The proofs that were taken. -/
def inputs (ledger : List (Entry S)) : List (Proof S) := ledger.flatMap (·.inputs)

/-- The payment requests that were paid. -/
def paid (ledger : List (Entry S)) : List String := ledger.flatMap (·.paid)

/-- What the invoice of a quote was issued for. -/
def quoted (ledger : List (Entry S)) (id : String) : Nat :=
  ((issued ledger).find? (·.id = id)).elim 0 (·.amount.toNat)

/-- What a payment request was issued for. -/
def requested (ledger : List (Entry S)) (request : String) : Nat :=
  ((issued ledger).find? (·.request = request)).elim 0 (·.amount.toNat)

/-- The value of all signatures. -/
def signedValue (ledger : List (Entry S)) : Nat := (ledger.map (·.signed)).sum

/-- The value of the payment requests that were paid. -/
def paidValue (ledger : List (Entry S)) : Nat := ((paid ledger).map (requested ledger)).sum

/-- The value of the quotes that were minted. -/
def mintedValue (ledger : List (Entry S)) : Nat := ((minted ledger).map (quoted ledger)).sum

/-- The value of the proofs that were taken. -/
def inputValue (ledger : List (Entry S)) : Nat := Proof.exactTotal (inputs ledger)

/-- Quotes and payment requests do not repeat. -/
structure Unrepeated (ledger : List (Entry S)) : Prop where
  ids : ((issued ledger).map (·.id)).Nodup
  requests : ((issued ledger).map (·.request)).Nodup

variable {ledger : List (Entry S)} {e : Entry S}

@[simp] theorem issued_append : issued (ledger ++ [e]) = issued ledger ++ e.issued := by
  simp [issued]

@[simp] theorem minted_append : minted (ledger ++ [e]) = minted ledger ++ e.minted := by
  simp [minted]

@[simp] theorem inputs_append : inputs (ledger ++ [e]) = inputs ledger ++ e.inputs := by
  simp [inputs]

@[simp] theorem paid_append : paid (ledger ++ [e]) = paid ledger ++ e.paid := by
  simp [paid]

@[simp] theorem signedValue_append :
    signedValue (ledger ++ [e]) = signedValue ledger + e.signed := by
  simp [signedValue]

@[simp] theorem inputValue_append :
    inputValue (ledger ++ [e]) = inputValue ledger + Proof.exactTotal e.inputs := by
  rw [inputValue, inputs_append, Proof.exactTotal_append]
  rfl

/-- What is found in a ledger is found in a longer one. -/
theorem quoted_append {id : String} (known : ∃ i ∈ issued ledger, i.id = id) :
    quoted (ledger ++ [e]) id = quoted ledger id := by
  obtain ⟨i, mem, rfl⟩ := known
  rcases found : (issued ledger).find? (·.id = i.id) with _ | j
  · exact absurd (List.find?_eq_none.1 found i mem) (by simp)
  · rw [quoted, quoted, issued_append, List.find?_append, found]
    rfl

theorem requested_append {request : String} (known : ∃ i ∈ issued ledger, i.request = request) :
    requested (ledger ++ [e]) request = requested ledger request := by
  obtain ⟨i, mem, rfl⟩ := known
  rcases found : (issued ledger).find? (·.request = i.request) with _ | j
  · exact absurd (List.find?_eq_none.1 found i mem) (by simp)
  · rw [requested, requested, issued_append, List.find?_append, found]
    rfl

theorem Unrepeated.of_append {later : List (Entry S)} (h : Unrepeated (ledger ++ later)) :
    Unrepeated ledger := by
  obtain ⟨ids, requests⟩ := h
  rw [issued, List.flatMap_append, List.map_append] at ids requests
  exact ⟨(List.nodup_append.1 ids).1, (List.nodup_append.1 requests).1⟩

end Ledger

/-! ## The ledger and the mint -/

open Ledger

/-- A mint that has done nothing yet. -/
structure IsNew (m : Mint S) : Prop where
  spent : m.spent = []
  quotes : m.quotes = []
  requests : m.requests = []

theorem isNew_of_create {m : Mint S} (h : create S = .ok m) : m.IsNew := by
  obtain ⟨keysets, -, h⟩ := bind_eq_ok.1 h
  cases h
  exact ⟨rfl, rfl, rfl⟩

/-- A mint is in the state that its ledger tells of, and the ledger is as it should be. -/
structure Kept (ledger : List (Entry S)) (m : Mint S) : Prop where
  quotes : m.quotes.map (fun q => (q.id, q.amount)) =
    ((issued ledger).map fun i => (i.id, i.amount)).reverse
  requests : m.requests = ((issued ledger).map fun i => (i.request, i.id)).reverse
  marked : ∀ q ∈ m.quotes, q.minted = true ↔ q.id ∈ minted ledger
  once : (minted ledger).Nodup
  exact : ∀ e ∈ ledger, ∀ id ∈ e.minted,
    ∃ i ∈ issued ledger, i.id = id ∧ e.signed = i.amount.toNat
  settled : ∀ request ∈ paid ledger, ∃ i ∈ issued ledger, i.request = request
  spent : Proof.ys (inputs ledger) = .ok m.spent
  distinct : m.spent.Nodup
  balanced : signedValue ledger + paidValue ledger ≤ mintedValue ledger + inputValue ledger

namespace Kept

variable {ledger : List (Entry S)} {e : Entry S} {m m' : Mint S}

theorem start (new : m.IsNew) : Kept [] m where
  quotes := by rw [new.quotes]; rfl
  requests := by rw [new.requests]; rfl
  marked := by simp [new.quotes]
  once := .nil
  exact := by simp
  settled := by simp [paid]
  spent := by rw [new.spent]; rfl
  distinct := by simp [new.spent]
  balanced := Nat.le_refl 0

theorem issued_of_minted (h : Kept ledger m) {id : String} (mem : id ∈ minted ledger) :
    ∃ i ∈ issued ledger, i.id = id := by
  obtain ⟨e, there, mem⟩ := List.mem_flatMap.1 mem
  obtain ⟨i, issued, same, -⟩ := h.exact e there id mem
  exact ⟨i, issued, same⟩

/-- The values of what was minted and paid before are the same in a longer ledger. -/
theorem mintedValue_append (h : Kept ledger m) :
    mintedValue (ledger ++ [e]) =
      mintedValue ledger + (e.minted.map (quoted (ledger ++ [e]))).sum := by
  rw [mintedValue, minted_append, List.map_append, List.sum_append, mintedValue]
  congr 2
  exact List.map_congr_left fun id mem => quoted_append (h.issued_of_minted mem)

theorem paidValue_append (h : Kept ledger m) :
    paidValue (ledger ++ [e]) =
      paidValue ledger + (e.paid.map (requested (ledger ++ [e]))).sum := by
  rw [paidValue, paid_append, List.map_append, List.sum_append, paidValue]
  congr 2
  exact List.map_congr_left fun request mem => requested_append (h.settled request mem)

/-- What the mint knows of a quote is what the ledger says of it. -/
theorem quoted_eq (h : Kept ledger m) (unrepeated : Unrepeated ledger) {id : String}
    {q : IssuedQuote} (found : m.quote? id = some q) :
    q ∈ m.quotes ∧ q.id = id ∧
      ∃ i ∈ issued ledger, i.id = id ∧ i.amount = q.amount ∧ quoted ledger id = q.amount.toNat := by
  have mem := List.mem_of_find?_eq_some found
  have same : q.id = id := by simpa using List.find?_some found
  have listed : (q.id, q.amount) ∈ ((issued ledger).map fun i => (i.id, i.amount)).reverse :=
    h.quotes ▸ List.mem_map.2 ⟨q, mem, rfl⟩
  obtain ⟨i, issued, eq⟩ := List.mem_map.1 (List.mem_reverse.1 listed)
  obtain ⟨sameId, sameAmount⟩ := Prod.mk.inj eq
  refine ⟨mem, same, i, issued, sameId.trans same, sameAmount, ?_⟩
  rw [quoted, ← same, ← sameId, find?_of_nodup unrepeated.ids issued, ← sameAmount]
  rfl

/-- So it is with the quote of a payment request. -/
theorem requested_eq (h : Kept ledger m) (unrepeated : Unrepeated ledger) {request : String}
    {q : IssuedQuote} (found : m.quoteOf request = .ok q) :
    ∃ i ∈ issued ledger, i.request = request ∧ requested ledger request = q.amount.toNat := by
  unfold quoteOf at found
  split at found
  · rename_i q' looked
    cases found
    obtain ⟨id, looked, known⟩ := Option.bind_eq_some_iff.1 looked
    obtain ⟨before, after, listed, -⟩ := List.lookup_eq_some_iff.1 looked
    have mem : (request, id) ∈ ((issued ledger).map fun i => (i.request, i.id)).reverse := by
      rw [← h.requests, listed]
      exact List.mem_append_right _ List.mem_cons_self
    obtain ⟨i, issuedI, eq⟩ := List.mem_map.1 (List.mem_reverse.1 mem)
    obtain ⟨rfl, rfl⟩ := Prod.mk.inj eq
    obtain ⟨-, -, j, issuedJ, same, amount, -⟩ := h.quoted_eq unrepeated known
    obtain rfl := List.inj_on_of_nodup_map unrepeated.ids issuedJ issuedI same
    refine ⟨j, issuedJ, rfl, ?_⟩
    rw [requested, find?_of_nodup unrepeated.requests issuedJ, ← amount]
    rfl
  · cases found

theorem exact_append (h : Kept ledger m)
    (new : ∀ id ∈ e.minted, ∃ i ∈ issued (ledger ++ [e]), i.id = id ∧ e.signed = i.amount.toNat) :
    ∀ f ∈ ledger ++ [e], ∀ id ∈ f.minted,
      ∃ i ∈ issued (ledger ++ [e]), i.id = id ∧ f.signed = i.amount.toNat := by
  intro f mem id minted
  rcases List.mem_append.1 mem with mem | mem
  · obtain ⟨i, issued, exact⟩ := h.exact f mem id minted
    exact ⟨i, by rw [issued_append]; exact List.mem_append_left _ issued, exact⟩
  · obtain rfl := List.mem_singleton.1 mem
    exact new id minted

theorem distinct_append (h : Kept ledger m) {proofs : List (Proof S)} {ys : List S.Point}
    (accepted : m.Accepts proofs ys) : (m.spent ++ ys).Nodup :=
  List.nodup_append.2 ⟨h.distinct, accepted.distinct, fun _ old _ new same =>
    accepted.unspent _ new (same ▸ old)⟩

theorem settled_append (h : Kept ledger m)
    (new : ∀ request ∈ e.paid, ∃ i ∈ issued (ledger ++ [e]), i.request = request) :
    ∀ request ∈ paid (ledger ++ [e]), ∃ i ∈ issued (ledger ++ [e]), i.request = request := by
  intro request mem
  rw [paid_append] at mem
  rcases List.mem_append.1 mem with mem | mem
  · obtain ⟨i, issued, same⟩ := h.settled request mem
    exact ⟨i, by rw [issued_append]; exact List.mem_append_left _ issued, same⟩
  · exact new request mem

/-! ## Each request keeps the ledger -/

theorem idle (h : Kept ledger m) : Kept (ledger ++ [({} : Entry S)]) m where
  quotes := by simpa using h.quotes
  requests := by simpa using h.requests
  marked := by simpa using h.marked
  once := by simpa using h.once
  exact := h.exact_append (by simp)
  settled := h.settled_append (by simp)
  spent := by simpa using h.spent
  distinct := h.distinct
  balanced := by
    rw [h.mintedValue_append, h.paidValue_append, signedValue_append, inputValue_append]
    exact h.balanced

theorem quote (h : Kept ledger m) {lightning : Lightning} {issue : Issue}
    {request : MintQuoteRequest} {answer : MintQuote}
    (granted : m.quote lightning issue request = .ok (answer, m'))
    (unrepeated : Unrepeated (ledger ++ [entry (S := S) (.quote request) (.ok answer)])) :
    Kept (ledger ++ [entry (S := S) (.quote request) (.ok answer)]) m' := by
  obtain ⟨-, rfl⟩ := quote_eq_ok granted
  have new : answer.id ∉ (issued ledger).map (·.id) := by
    have ids := unrepeated.ids
    rw [issued_append, List.map_append, List.nodup_append] at ids
    exact fun old => ids.2.2 answer.id old answer.id (by simp [entry]) rfl
  refine ⟨?_, ?_, ?_, ?_, ?_, ?_, ?_, h.distinct, ?_⟩
  · simp [entry, h.quotes]
  · simp [entry, h.requests]
  · -- The new quote has a name of its own, which nothing has been minted for.
    intro q mem
    rw [minted_append, entry, List.append_nil]
    rcases List.mem_cons.1 mem with rfl | mem
    · refine ⟨fun marked => (nomatch marked), fun minted => absurd ?_ new⟩
      obtain ⟨i, issued, same⟩ := h.issued_of_minted minted
      exact List.mem_map.2 ⟨i, issued, same⟩
    · exact h.marked q mem
  · rw [minted_append, entry, List.append_nil]
    exact h.once
  · exact h.exact_append (by simp [entry])
  · exact h.settled_append (by simp [entry])
  · simpa [entry] using h.spent
  · rw [h.mintedValue_append, h.paidValue_append, signedValue_append, inputValue_append]
    exact h.balanced

theorem mint (h : Kept ledger m) {nonces : Nat → S.Scalar} {request : MintRequest S}
    {answer : MintResponse S} (granted : m.mint nonces request = .ok (answer, m'))
    (unrepeated : Unrepeated ledger) :
    Kept (ledger ++ [entry (.mint request) (.ok answer)]) m' := by
  obtain ⟨q, done⟩ := mint_eq_ok granted
  obtain ⟨mem, same, i, issuedI, sameId, sameAmount, worth⟩ := h.quoted_eq unrepeated done.found
  have new : request.id ∉ minted ledger := by
    rw [← same, ← h.marked q mem, done.unminted]
    exact Bool.false_ne_true
  have value : promised answer.promises = q.amount.toNat := done.value
  rw [done.changed]
  refine ⟨?_, ?_, ?_, ?_, ?_, ?_, ?_, h.distinct, ?_⟩
  · -- Marking a quote as minted changes neither its name nor its amount.
    rw [issued_append, entry, List.append_nil, ← h.quotes, List.map_map]
    refine List.map_congr_left fun q' _ => ?_
    rw [Function.comp_apply]
    split <;> rfl
  · simpa [entry] using h.requests
  · -- No other quote than the one asked for becomes minted.
    intro q' mem'
    obtain ⟨old, there, rfl⟩ := List.mem_map.1 mem'
    rw [minted_append, entry, List.mem_append, List.mem_singleton]
    by_cases this : old.id = request.id
    · rw [if_pos this]
      exact ⟨fun _ => .inr this, fun _ => rfl⟩
    · rw [if_neg this, h.marked old there]
      exact ⟨.inl, fun mem => mem.resolve_right this⟩
  · rw [minted_append]
    refine List.nodup_append.2 ⟨h.once, List.nodup_singleton _, fun id old id' this => ?_⟩
    rw [List.mem_singleton.1 this]
    exact fun same => new (same ▸ old)
  · refine h.exact_append fun id this => ⟨i, ?_, ?_, ?_⟩
    · rw [issued_append]
      exact List.mem_append_left _ issuedI
    · rw [sameId, List.mem_singleton.1 this]
    · rw [sameAmount]
      exact value
  · exact h.settled_append (by simp [entry])
  · simpa [entry] using h.spent
  · -- The signatures are worth as much as the quote.
    have known := quoted_append (e := entry (.mint request) (.ok answer)) ⟨i, issuedI, sameId⟩
    have balanced := h.balanced
    rw [h.mintedValue_append, h.paidValue_append, signedValue_append, inputValue_append]
    simp only [entry, List.map_cons, List.map_nil, List.sum_cons, List.sum_nil, Proof.exactTotal,
      Amount.exactSum_nil] at known ⊢
    rw [known, worth, value]
    omega

theorem split (h : Kept ledger m) {nonces : Nat → S.Scalar} {request : SplitRequest S}
    {answer : SplitResponse S} (granted : m.split nonces request = .ok (answer, m')) :
    Kept (ledger ++ [entry (.split request) (.ok answer)]) m' := by
  obtain ⟨ys, done⟩ := split_eq_ok granted
  rw [done.changed]
  refine ⟨?_, ?_, ?_, ?_, ?_, ?_, ?_, h.distinct_append done.accepted, ?_⟩
  · simpa [entry] using h.quotes
  · simpa [entry] using h.requests
  · simpa [entry] using h.marked
  · simpa [entry] using h.once
  · exact h.exact_append (by simp [entry])
  · exact h.settled_append (by simp [entry])
  · rw [inputs_append]
    exact Proof.ys_append h.spent done.accepted.points
  · have balanced := h.balanced
    have value : promised answer.promises = Proof.exactTotal request.proofs := done.value
    rw [h.mintedValue_append, h.paidValue_append, signedValue_append, inputValue_append]
    simp only [entry, List.map_nil, List.sum_nil]
    omega

theorem melt (h : Kept ledger m) {nonces : Nat → S.Scalar} {request : MeltRequest S}
    {answer : MeltResponse S} (granted : m.melt nonces request = .ok (answer, m'))
    (unrepeated : Unrepeated ledger) :
    Kept (ledger ++ [entry (.melt request) (.ok answer)]) m' := by
  obtain ⟨q, ys, done⟩ := melt_eq_ok granted
  obtain ⟨i, issuedI, sameRequest, worth⟩ := h.requested_eq unrepeated done.found
  rw [done.changed]
  refine ⟨?_, ?_, ?_, ?_, ?_, ?_, ?_, h.distinct_append done.accepted, ?_⟩
  · simpa [entry] using h.quotes
  · simpa [entry] using h.requests
  · simpa [entry] using h.marked
  · simpa [entry] using h.once
  · exact h.exact_append (by simp [entry])
  · refine h.settled_append fun text this => ⟨i, ?_, ?_⟩
    · rw [issued_append]
      exact List.mem_append_left _ issuedI
    · rw [sameRequest, List.mem_singleton.1 this]
  · rw [inputs_append]
    exact Proof.ys_append h.spent done.accepted.points
  · -- The change and the invoice come out of the proofs given.
    have known := requested_append (e := entry (.melt request) (.ok answer))
      ⟨i, issuedI, sameRequest⟩
    have balanced := h.balanced
    have value : promised answer.change + q.amount.toNat ≤ Proof.exactTotal request.proofs :=
      done.value
    rw [h.mintedValue_append, h.paidValue_append, signedValue_append, inputValue_append]
    simp only [entry, List.map_cons, List.map_nil, List.sum_cons, List.sum_nil] at known ⊢
    rw [known, worth]
    omega

/-- Whatever a mint is asked for, its ledger is kept. -/
theorem serve (h : Kept ledger m) (lightning : Lightning) (source : MintSource S)
    (call : MintCall S)
    (unrepeated : Unrepeated (ledger ++ [entry call (m.serve lightning source call).1])) :
    Kept (ledger ++ [entry call (m.serve lightning source call).1])
      (m.serve lightning source call).2 := by
  have before := unrepeated.of_append
  cases call with
  | quote request =>
    have served : m.serve lightning source (.quote request) =
        m.settle (m.quote lightning source.issue request) := rfl
    rcases granted : m.quote lightning source.issue request with r | ⟨answer, m'⟩
    · rw [served, granted]
      exact h.idle
    · rw [served, granted] at unrepeated ⊢
      exact h.quote granted unrepeated
  | mint request =>
    have served : m.serve lightning source (.mint request) =
        m.settle (m.mint source.nonces request) := rfl
    rcases granted : m.mint source.nonces request with r | ⟨answer, m'⟩
    · rw [served, granted]
      exact h.idle
    · rw [served, granted]
      exact h.mint granted before
  | split request =>
    have served : m.serve lightning source (.split request) =
        m.settle (m.split source.nonces request) := rfl
    rcases granted : m.split source.nonces request with r | ⟨answer, m'⟩
    · rw [served, granted]
      exact h.idle
    · rw [served, granted]
      exact h.split granted
  | melt request =>
    have served : m.serve lightning source (.melt request) =
        m.settle (m.melt source.nonces request) := rfl
    rcases granted : m.melt source.nonces request with r | ⟨answer, m'⟩
    · rw [served, granted]
      exact h.idle
    · rw [served, granted]
      exact h.melt granted before
  | keys | keyset | keysets | info | meltQuote | checkState =>
    -- These only tell something.
    exact h.idle

end Kept

/-- What is served after a ledger is kept in the ledger that goes on from it. -/
theorem kept_serveAll {lightning : Lightning} {calls : List (MintSource S × MintCall S)}
    {ledger : List (Entry S)} {m : Mint S} (h : Kept ledger m)
    (unrepeated : Unrepeated (ledger ++ (serveAll lightning m calls).1)) :
    Kept (ledger ++ (serveAll lightning m calls).1) (serveAll lightning m calls).2 := by
  induction calls generalizing ledger m with
  | nil =>
    rw [serveAll, List.append_nil]
    exact h
  | cons next rest ih =>
    obtain ⟨source, call⟩ := next
    have split : ledger ++ (serveAll lightning m ((source, call) :: rest)).1 =
        (ledger ++ [entry call (m.serve lightning source call).1]) ++
          (serveAll lightning (m.serve lightning source call).2 rest).1 := by
      rw [List.append_assoc]
      rfl
    rw [split] at unrepeated ⊢
    exact ih (h.serve lightning source call unrepeated.of_append) unrepeated

/-- Whatever a new mint has been asked for by anyone, in any order: the signatures it has given and
the invoices it has paid are worth no more than the quotes it has minted and the proofs it has
taken; each quote is minted once at most, for its amount; no proof is taken twice, and those that
were taken are the ones it says are spent; and what it refuses changes nothing. -/
theorem conserved_serveAll {lightning : Lightning} {m m' : Mint S} (new : m.IsNew)
    {calls : List (MintSource S × MintCall S)} {ledger : List (Entry S)}
    (served : serveAll lightning m calls = (ledger, m')) (unrepeated : Unrepeated ledger) :
    signedValue ledger + paidValue ledger ≤ mintedValue ledger + inputValue ledger ∧
      (minted ledger).Nodup ∧
      (∀ e ∈ ledger, ∀ id ∈ e.minted,
        ∃ i ∈ issued ledger, i.id = id ∧ e.signed = i.amount.toNat) ∧
      (∃ ys, Proof.ys (inputs ledger) = .ok ys ∧ ys.Nodup ∧
        ∀ source request, (m'.serve lightning source (.checkState request)).1 =
          .ok ⟨request.ys.map fun y => ⟨y, if y ∈ ys then .spent else .unspent⟩⟩) ∧
      ∀ source call r, (m'.serve lightning source call).1 = .error r →
        (m'.serve lightning source call).2 = m' := by
  have ledgerEq : ledger = (serveAll lightning m calls).1 := by rw [served]
  have mintEq : m' = (serveAll lightning m calls).2 := by rw [served]
  have kept : Kept ledger m' := by
    rw [ledgerEq] at unrepeated ⊢
    rw [mintEq]
    exact kept_serveAll (Kept.start new) unrepeated
  refine ⟨kept.balanced, kept.once, kept.exact, ⟨_, kept.spent, kept.distinct, ?_⟩,
    fun _ _ _ => serve_refused⟩
  intro source request
  simp [serve, checkState]

end Chaumian.Mint

namespace Chaumian.Sample

open Wallet Mint Mint.Ledger

/-- A new mint with the sample keyset. -/
def mint : Mint suite := ⟨ownInfo, [secretKeyset], [], [], []⟩

/-- Payment requests are told by their time. -/
def clock : Lightning where
  paymentHash? text := some text
  issue _ _ time := .ok s!"invoice {time}"

/-- The calls of a client that tries everything twice: it is issued an invoice of 3, has proofs of 1
and 2 minted for it, exchanges a proof of 4 for 4 and pays the invoice with a proof of 8. -/
def calls : List (MintSource suite × MintCall suite) :=
  let source (n : Nat) : MintSource suite := ⟨fun i => scalar (20 + n + i), ⟨s!"quote {n}", [], n⟩⟩
  [(source 1, .quote ⟨.clamp 3⟩),
    (source 2, .mint ⟨"quote 1", [output 1 30, output 2 31]⟩),
    (source 3, .mint ⟨"quote 1", [output 1 32, output 2 33]⟩),
    (source 4, .split ⟨[proof 4 0], [output 4 34]⟩),
    (source 5, .split ⟨[proof 4 0], [output 4 35]⟩),
    (source 6, .melt ⟨[proof 8 1], "invoice 1", [output 0 36]⟩),
    (source 7, .melt ⟨[proof 8 1], "invoice 1", [output 0 37]⟩)]

set_option maxRecDepth 4000

/-- They come to signatures of 8 and a payment of 3, for a quote of 3 and proofs of 12: what the
change of 5 has no outputs for stays with the mint. -/
theorem conserved_calls :
    let ledger := (serveAll clock mint calls).1
    Unrepeated ledger ∧
      signedValue ledger + paidValue ledger ≤ mintedValue ledger + inputValue ledger ∧
      (signedValue ledger, paidValue ledger, mintedValue ledger, inputValue ledger) =
        (8, 3, 3, 12) := by
  have evaluated :
      let ledger := (serveAll clock mint calls).1
      (((issued ledger).map (·.id)).Nodup ∧ ((issued ledger).map (·.request)).Nodup) ∧
        (signedValue ledger, paidValue ledger, mintedValue ledger, inputValue ledger) =
          (8, 3, 3, 12) := by
    decide +kernel
  obtain ⟨⟨ids, requests⟩, values⟩ := evaluated
  have unrepeated : Unrepeated (serveAll clock mint calls).1 := ⟨ids, requests⟩
  exact ⟨unrepeated, (conserved_serveAll ⟨rfl, rfl, rfl⟩ (Prod.eta _).symm unrepeated).1, values⟩

end Chaumian.Sample
