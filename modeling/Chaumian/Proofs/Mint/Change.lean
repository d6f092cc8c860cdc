import Chaumian.Proofs.Denominations
import Chaumian.Proofs.Mint.Granting

/-!
# What a mint gives back

A mint that is paid too much signs the digits of what is left over, one to an output, and keeps what
it has no outputs for. A payer who sends `Premint.blankCount` outputs for a reserve has sent enough
for everything up to that reserve, itself included. Whatever is below the next power of two has no
more ones among its digits than that has places; and only the power itself is beyond that, which is
a single digit.

What the invoices of a mint are needs its history: all of them are for something, and every payment
request has been issued (`Mint.Invoiced`).
-/

namespace Chaumian

/-! ## How many digits there are -/

/-- Below a power of two a number has ones only at the places before its exponent. -/
theorem length_bitIndices_le {n places : Nat} (below : n < 2 ^ places) :
    n.bitIndices.length ≤ places := by
  have within : n.bitIndices ⊆ List.range places := by
    intro place mem
    rw [List.mem_range]
    exact (Nat.pow_lt_pow_iff_right (by decide : 1 < 2)).1
      ((Nat.ge_two_pow_of_testBit (Nat.mem_bitIndices.1 mem)).trans_lt below)
  have distinct : n.bitIndices.Nodup := Nat.bitIndices_sorted.nodup
  exact (distinct.subperm within).length_le.trans_eq List.length_range

/-- An amount is decomposed into as many parts as it has ones. -/
theorem Denominations.length_decompose {d : Denominations} {a : Amount} {parts : List Amount}
    (h : d.decompose a = .ok parts) : parts.length = a.toNat.bitIndices.length := by
  have made := ascending_of_decompose h
  have digits := (map_toNat_of_ascending made.ascending made.supported).1
  rw [made.total] at digits
  simpa using congrArg List.length digits

namespace Premint

theorem length_blankAmounts (reserve : Amount) :
    (blankAmounts reserve).length = blankCount reserve :=
  List.length_replicate

/-- There are as many outputs as the reserve needs places, rounded up, and at least one. -/
theorem blankCount_eq (reserve : Amount) :
    blankCount reserve = max 1 (Nat.clog 2 reserve.toNat) := by
  have least : 1 < 2 := by decide
  unfold blankCount
  split
  · rename_i few
    rw [Nat.max_eq_left ((Nat.clog_le_iff_le_pow least).2 few)]
  · rename_i many
    have places : Nat.clog 2 reserve.toNat = (reserve.toNat - 1).log2 + 1 := by
      refine eq_of_forall_ge_iff fun n => ?_
      rw [Nat.clog_le_iff_le_pow least, Nat.succ_le_iff, Nat.log2_lt (by omega)]
      omega
    rw [places, Nat.max_eq_right (Nat.le_add_left 1 _)]

/-- There are outputs enough for the change out of a reserve, up to all of it. -/
theorem length_le_blankCount {d : Denominations} {a reserve : Amount} {parts : List Amount}
    (h : d.decompose a = .ok parts) (within : a.toNat ≤ reserve.toNat) :
    parts.length ≤ blankCount reserve := by
  rw [Denominations.length_decompose h, blankCount_eq]
  have bound := within.trans (Nat.le_pow_clog (by decide : 1 < 2) reserve.toNat)
  rcases Nat.lt_or_eq_of_le bound with below | reached
  · exact (length_bitIndices_le below).trans (Nat.le_max_right _ _)
  · -- What reaches the bound is a power of two, and takes a single output.
    rw [reached, Nat.bitIndices_two_pow]
    exact Nat.le_max_left _ _

end Premint

namespace Mint

variable {S : Suite} {m m' : Mint S} {ys : List S.Point}

/-! ## Giving change -/

/-- What is signed is for the parts of the change, each on an output of its own, and all of them if
there are outputs enough. -/
theorem Complete.exists_melt {G : Type} [AddCommGroup G] (laws : S.Laws G) (complete : m.Complete)
    {id : KeysetId} {k : Keyset S} (published : m.keyset id = .ok k) {request : MeltRequest S}
    {quote : IssuedQuote} {total change : Amount} {parts : List Amount}
    (found : m.quoteOf request.paymentRequest = .ok quote)
    (accepted : m.Accepts request.proofs ys) (given : Proof.total request.proofs = .ok total)
    (left : total.sub? quote.amount = some change)
    (decomposed : Denominations.all.decompose change = .ok parts)
    (room : parts.length ≤ request.outputs.length)
    (named : ∀ o ∈ request.outputs, o.keysetId = id) {nonces : Nat → S.Scalar}
    (proves : ∀ o ∈ request.outputs, ∀ i, m.Proves (nonces i) o.blinded) :
    ∃ answer, m.melt nonces request = .ok (answer, { m with spent := m.spent ++ ys }) ∧
      answer.change.map (·.amount) = parts := by
  have powers : ∀ w ∈ parts.zip request.outputs, w.2.keysetId = id ∧ ∃ n, w.1.toNat = 2 ^ n :=
    fun w mem => ⟨named w.2 (List.of_mem_zip mem).2,
      Denominations.exists_pow_of_mem_decompose decomposed (List.of_mem_zip mem).1⟩
  have proves : ∀ w ∈ parts.zip request.outputs, ∀ i, m.Proves (nonces i) w.2.blinded :=
    fun w mem => proves w.2 (List.of_mem_zip mem).2
  obtain ⟨promises, signed⟩ := complete.exists_signAll laws published powers proves
  refine ⟨⟨true, some (Hex.encode quote.preimage), promises⟩, ?_, ?_⟩
  · refine bind_eq_ok.2 ⟨quote, found, bind_eq_ok.2 ⟨ys, accepted.checkInputs,
      bind_eq_ok.2 ⟨total, mapError_eq_ok.2 given, ?_⟩⟩⟩
    rw [left]
    exact bind_eq_ok.2 ⟨parts, mapError_eq_ok.2 decomposed, bind_eq_ok.2 ⟨promises, signed, rfl⟩⟩
  · exact (amounts_of_signAll signed).trans (List.map_fst_zip room)

/-! ## The invoices of a mint -/

/-- Every invoice is for something, and every payment request has been issued for some amount. -/
structure Invoiced (lightning : Lightning) (m : Mint S) : Prop where
  positive : ∀ quote ∈ m.quotes, 0 < quote.amount.toNat
  issued : ∀ r ∈ m.requests, ∃ amount hash time, lightning.issue amount hash time = .ok r.1

variable {lightning : Lightning}

theorem Invoiced.of_quotes (invoiced : m.Invoiced lightning) (quotes : m'.quotes = m.quotes)
    (requests : m'.requests = m.requests) : m'.Invoiced lightning :=
  ⟨quotes ▸ invoiced.positive, requests ▸ invoiced.issued⟩

theorem quoteOf_of_quotes (quotes : m'.quotes = m.quotes) (requests : m'.requests = m.requests)
    (request : String) : m'.quoteOf request = m.quoteOf request := by
  unfold quoteOf
  rw [requests]
  have same : m'.quote? = m.quote? := by
    funext id
    rw [quote?, quote?, quotes]
  rw [same]

/-- So is the invoice of a payment request. -/
theorem Invoiced.of_quoteOf (invoiced : m.Invoiced lightning) {request : String}
    {quote : IssuedQuote} (found : m.quoteOf request = .ok quote) :
    0 < quote.amount.toNat ∧ ∃ amount hash time, lightning.issue amount hash time = .ok request := by
  unfold quoteOf at found
  split at found
  · rename_i known
    cases found
    obtain ⟨id, looked, known⟩ := Option.bind_eq_some_iff.1 known
    obtain ⟨before, after, listed, -⟩ := List.lookup_eq_some_iff.1 looked
    refine ⟨invoiced.positive _ (List.mem_of_find?_eq_some known),
      invoiced.issued (request, id) ?_⟩
    rw [listed]
    exact List.mem_append_right _ List.mem_cons_self
  · cases found

theorem issued_of_quote {issue : Issue} {request : MintQuoteRequest} {answer : MintQuote}
    (h : m.quote lightning issue request = .ok (answer, m')) : request.amount ≠ .zero ∧
      ∃ hash time, lightning.issue request.amount hash time = .ok answer.paymentRequest := by
  unfold quote at h
  obtain ⟨some, h⟩ := guard_eq_ok.1 h
  obtain ⟨text, issued, h⟩ := bind_eq_ok.1 h
  cases h
  exact ⟨some, _, _, mapError_eq_ok.1 issued⟩

theorem invoiced_of_create (h : create S = .ok m) : m.Invoiced lightning := by
  obtain ⟨keysets, -, h⟩ := bind_eq_ok.1 h
  cases h
  exact ⟨List.forall_mem_nil _, List.forall_mem_nil _⟩

theorem invoiced_serve (source : MintSource S) (call : Wallet.MintCall S)
    (invoiced : m.Invoiced lightning) : (m.serve lightning source call).2.Invoiced lightning := by
  have settled {α : Type} (outcome : Except Refusal (α × Mint S))
      (granted : ∀ answer m', outcome = .ok (answer, m') → m'.Invoiced lightning) :
      (m.settle outcome).2.Invoiced lightning := by
    rcases outcome with _ | ⟨answer, m'⟩
    · exact invoiced
    · exact granted answer m' rfl
  cases call with
  | quote request =>
    refine settled _ fun answer m' granted => ?_
    obtain ⟨some, issued⟩ := issued_of_quote granted
    rw [(quote_eq_ok granted).2]
    exact ⟨List.forall_mem_cons.2 ⟨Nat.pos_of_ne_zero fun none => some (Amount.ext none),
      invoiced.positive⟩, List.forall_mem_cons.2 ⟨⟨_, issued⟩, invoiced.issued⟩⟩
  | mint request =>
    refine settled _ fun answer m' granted => ?_
    obtain ⟨quote, minted⟩ := mint_eq_ok granted
    rw [minted.changed]
    refine ⟨List.forall_mem_map.2 fun quote mem => ?_, invoiced.issued⟩
    -- That a quote has been minted changes nothing about its amount.
    have positive := invoiced.positive quote mem
    split <;> exact positive
  | split request =>
    refine settled _ fun answer m' granted => ?_
    obtain ⟨ys, split⟩ := split_eq_ok granted
    rw [split.changed]
    exact invoiced.of_quotes rfl rfl
  | melt request =>
    refine settled _ fun answer m' granted => ?_
    obtain ⟨quote, ys, melted⟩ := melt_eq_ok granted
    rw [melted.changed]
    exact invoiced.of_quotes rfl rfl
  | keys | keyset | keysets | info | meltQuote | checkState => exact invoiced

/-- Whatever a mint has been asked for since it was made. -/
theorem invoiced_serveAll (calls : List (MintSource S × Wallet.MintCall S))
    (invoiced : m.Invoiced lightning) : (serveAll lightning m calls).2.Invoiced lightning := by
  induction calls generalizing m with
  | nil => exact invoiced
  | cons call rest ih => exact ih (invoiced_serve call.1 call.2 invoiced)

end Mint

end Chaumian
