import Chaumian.Proofs.Proof
import Chaumian.Wallet.Connection

/-!
# What a mint has done when it has granted a request

One lemma for each request that changes a mint: all that has been checked, what has been signed, and
the mint afterwards.
-/

namespace Chaumian

namespace Mint

variable {S : Suite} {m m' : Mint S}

/-- The promise is made for the output with the key for the amount in the keyset of the output. -/
def Promises (m : Mint S) (amount : Amount) (output : Output S) (promise : Promise S) : Prop :=
  ∃ pair nonce, m.keyPair output.keysetId amount = .ok pair ∧
    Promise.make nonce pair.secretKey amount output = .ok promise

theorem Promises.amount_eq {amount : Amount} {output : Output S} {promise : Promise S}
    (h : m.Promises amount output promise) : promise.amount = amount := by
  obtain ⟨_, _, _, made⟩ := h
  obtain ⟨_, _, _, _, rfl⟩ := Promise.make_eq_ok made
  rfl

theorem Promises.keysetId_eq {amount : Amount} {output : Output S} {promise : Promise S}
    (h : m.Promises amount output promise) : promise.keysetId = output.keysetId := by
  obtain ⟨_, _, _, made⟩ := h
  obtain ⟨_, _, _, _, rfl⟩ := Promise.make_eq_ok made
  rfl

theorem sign_eq_ok {nonce : S.Scalar} {amount : Amount} {output : Output S} {promise : Promise S}
    (h : m.sign nonce amount output = .ok promise) : m.Promises amount output promise := by
  obtain ⟨pair, known, h⟩ := bind_eq_ok.1 h
  exact ⟨pair, nonce, known, mapError_eq_ok.1 h⟩

theorem signAll_eq_ok {nonces : Nat → S.Scalar} {wanted : List (Amount × Output S)}
    {promises : List (Promise S)} (h : m.signAll nonces wanted = .ok promises) :
    List.Forall₂ (fun w promise => m.Promises w.1 w.2 promise) wanted promises := by
  have signed := (mapM_eq_ok.1 h).imp fun _ _ signed => sign_eq_ok signed
  have first : List.Forall₂ (fun w promise => m.Promises w.1 w.2 promise)
      (wanted.zipIdx.map Prod.fst) promises := List.forall₂_map_left_iff.2 signed
  rwa [List.zipIdx_map_fst] at first

theorem amounts_of_signAll {nonces : Nat → S.Scalar} {wanted : List (Amount × Output S)}
    {promises : List (Promise S)} (h : m.signAll nonces wanted = .ok promises) :
    promises.map (·.amount) = wanted.map Prod.fst :=
  (map_eq_of_forall₂ (signAll_eq_ok h) fun _ _ promised => promised.amount_eq.symm).symm

theorem amounts_of_signOutputs {nonces : Nat → S.Scalar} {outputs : List (Output S)}
    {promises : List (Promise S)} (h : m.signOutputs nonces outputs = .ok promises) :
    promises.map (·.amount) = outputs.map (·.amount) := by
  rw [amounts_of_signAll h, List.map_map]
  rfl

/-- What has been checked of proofs that the mint takes. -/
structure Accepts (m : Mint S) (proofs : List (Proof S)) (ys : List S.Point) : Prop where
  points : Proof.ys proofs = .ok ys
  distinct : ys.Nodup
  unspent : ∀ y ∈ ys, y ∉ m.spent
  signed : m.checkSignatures proofs = .ok ()

theorem checkInputs_eq_ok {proofs : List (Proof S)} {ys : List S.Point}
    (h : m.checkInputs proofs = .ok ys) : m.Accepts proofs ys := by
  obtain ⟨ys', points, h⟩ := bind_eq_ok.1 h
  obtain ⟨distinct, h⟩ := guard_eq_ok.1 h
  obtain ⟨unspent, h⟩ := guard_eq_ok.1 h
  obtain ⟨_, signed, h⟩ := bind_eq_ok.1 h
  cases h
  exact ⟨mapError_eq_ok.1 points, by simpa using distinct, by simpa using unspent, signed⟩

theorem outputTotal_eq_ok {outputs : List (Output S)} {total : Amount}
    (h : outputTotal outputs = .ok total) :
    Amount.exactSum (outputs.map (·.amount)) = total.toNat :=
  Amount.exactSum_of_sum (mapError_eq_ok.1 h)

theorem inputTotal_eq_ok {proofs : List (Proof S)} {total : Amount}
    (h : inputTotal proofs = .ok total) : Proof.exactTotal proofs = total.toNat :=
  Proof.exactTotal_of_total (mapError_eq_ok.1 h)

/-! ## Requests -/

theorem quote_eq_ok {lightning : Lightning} {issue : Issue} {request : MintQuoteRequest}
    {answer : MintQuote} (h : m.quote lightning issue request = .ok (answer, m')) :
    answer.id = issue.id ∧ m' = { m with
      quotes := ⟨answer.id, request.amount, issue.preimage, false⟩ :: m.quotes
      requests := (answer.paymentRequest, answer.id) :: m.requests } := by
  unfold quote at h
  obtain ⟨-, h⟩ := guard_eq_ok.1 h
  obtain ⟨text, issued, h⟩ := bind_eq_ok.1 h
  cases h
  exact ⟨rfl, rfl⟩

/-- What has been checked and done when the outputs of a quote have been signed. -/
structure Mints (m : Mint S) (request : MintRequest S) (promises : List (Promise S))
    (quote : IssuedQuote) (m' : Mint S) : Prop where
  found : m.quote? request.id = some quote
  unminted : quote.minted = false
  amounts : promises.map (·.amount) = request.outputs.map (·.amount)
  value : Amount.exactSum (promises.map (·.amount)) = quote.amount.toNat
  signed : List.Forall₂ (fun output promise => m.Promises output.amount output promise)
    request.outputs promises
  changed : m' = { m with quotes := m.quotes.map fun q =>
    if q.id = request.id then { q with minted := true } else q }

theorem forall₂_of_signOutputs {nonces : Nat → S.Scalar} {outputs : List (Output S)}
    {promises : List (Promise S)} (h : m.signOutputs nonces outputs = .ok promises) :
    List.Forall₂ (fun output promise => m.Promises output.amount output promise)
      outputs promises :=
  List.forall₂_map_left_iff.1 (signAll_eq_ok h)

theorem mint_eq_ok {nonces : Nat → S.Scalar} {request : MintRequest S} {answer : MintResponse S}
    (h : m.mint nonces request = .ok (answer, m')) :
    ∃ quote, m.Mints request answer.promises quote m' := by
  unfold mint at h
  rcases found : m.quote? request.id with _ | quote
  · rw [found] at h
    cases h
  · rw [found] at h
    obtain ⟨unminted, h⟩ := guard_eq_ok.1 h
    obtain ⟨total, counted, h⟩ := bind_eq_ok.1 h
    obtain ⟨same, h⟩ := guard_eq_ok.1 h
    obtain ⟨promises, signed, h⟩ := bind_eq_ok.1 h
    cases h
    have amounts := amounts_of_signOutputs signed
    refine ⟨quote, found, by simpa using unminted, amounts, ?_, forall₂_of_signOutputs signed, rfl⟩
    rw [amounts, outputTotal_eq_ok counted, not_not.1 same]

/-- What has been checked and done when proofs have been exchanged. -/
structure Splits (m : Mint S) (request : SplitRequest S) (promises : List (Promise S))
    (ys : List S.Point) (m' : Mint S) : Prop where
  accepted : m.Accepts request.proofs ys
  amounts : promises.map (·.amount) = request.outputs.map (·.amount)
  value : Amount.exactSum (promises.map (·.amount)) = Proof.exactTotal request.proofs
  signed : List.Forall₂ (fun output promise => m.Promises output.amount output promise)
    request.outputs promises
  changed : m' = { m with spent := m.spent ++ ys }

theorem split_eq_ok {nonces : Nat → S.Scalar} {request : SplitRequest S} {answer : SplitResponse S}
    (h : m.split nonces request = .ok (answer, m')) :
    ∃ ys, m.Splits request answer.promises ys m' := by
  obtain ⟨ys, checked, h⟩ := bind_eq_ok.1 h
  obtain ⟨input, counted, h⟩ := bind_eq_ok.1 h
  obtain ⟨output, countedOut, h⟩ := bind_eq_ok.1 h
  obtain ⟨balanced, h⟩ := guard_eq_ok.1 h
  obtain ⟨promises, signed, h⟩ := bind_eq_ok.1 h
  cases h
  have amounts := amounts_of_signOutputs signed
  refine ⟨ys, checkInputs_eq_ok checked, amounts, ?_, forall₂_of_signOutputs signed, rfl⟩
  rw [amounts, outputTotal_eq_ok countedOut, inputTotal_eq_ok counted, not_not.1 balanced]

/-- What has been checked and done when an invoice has been paid with proofs. -/
structure Melts (m : Mint S) (request : MeltRequest S) (answer : MeltResponse S)
    (quote : IssuedQuote) (ys : List S.Point) (m' : Mint S) : Prop where
  found : m.quoteOf request.paymentRequest = .ok quote
  accepted : m.Accepts request.proofs ys
  paid : answer.paid = true
  /-- What is signed is some of the change. -/
  value : Amount.exactSum (answer.change.map (·.amount)) + quote.amount.toNat ≤
    Proof.exactTotal request.proofs
  signed : ∃ parts : List Amount, List.Forall₂ (fun w promise => m.Promises w.1 w.2 promise)
    (parts.zip request.outputs) answer.change
  changed : m' = { m with spent := m.spent ++ ys }

theorem melt_eq_ok {nonces : Nat → S.Scalar} {request : MeltRequest S} {answer : MeltResponse S}
    (h : m.melt nonces request = .ok (answer, m')) :
    ∃ quote ys, m.Melts request answer quote ys m' := by
  obtain ⟨quote, found, h⟩ := bind_eq_ok.1 h
  obtain ⟨ys, checked, h⟩ := bind_eq_ok.1 h
  obtain ⟨input, counted, h⟩ := bind_eq_ok.1 h
  rcases left : input.sub? quote.amount with _ | change
  · rw [left] at h
    cases h
  · rw [left] at h
    obtain ⟨parts, decomposed, h⟩ := bind_eq_ok.1 h
    obtain ⟨promises, signed, h⟩ := bind_eq_ok.1 h
    cases h
    have ⟨covered, rest⟩ := Amount.toNat_of_sub? left
    have whole := Denominations.exactSum_decompose (mapError_eq_ok.1 decomposed)
    have within := Amount.exactSum_map_fst_zip_le parts request.outputs
    refine ⟨quote, ys, found, checkInputs_eq_ok checked, rfl, ?_, ⟨parts, signAll_eq_ok signed⟩,
      rfl⟩
    rw [amounts_of_signAll signed, inputTotal_eq_ok counted]
    omega

/-! ## Calls -/

theorem settle_eq_ok {α : Type} {outcome : Except Refusal (α × Mint S)} {answer : α}
    (h : m.settle outcome = (.ok answer, m')) : outcome = .ok (answer, m') := by
  rcases outcome with r | ⟨_, _⟩
  · cases h
  · cases h
    rfl

/-- A refusal leaves the mint as it was. -/
theorem serve_refused {lightning : Lightning} {source : MintSource S} {m : Mint S}
    {call : Wallet.MintCall S} {r : Refusal}
    (refused : (m.serve lightning source call).1 = .error r) :
    (m.serve lightning source call).2 = m := by
  have settled {α : Type} (outcome : Except Refusal (α × Mint S))
      (h : (m.settle outcome).1 = .error r) : (m.settle outcome).2 = m := by
    rcases outcome with _ | ⟨_, _⟩
    · rfl
    · cases h
  cases call with
  | quote => exact settled _ refused
  | mint => exact settled _ refused
  | split => exact settled _ refused
  | melt => exact settled _ refused
  | keys | keyset | keysets | info | meltQuote | checkState => rfl

end Mint

end Chaumian
