import Chaumian.Proof

/-!
Requests that exchange value, and the answers to them: an invoice for promises, proofs for promises,
and proofs for the payment of an invoice.
-/

namespace Chaumian

open Json (Codec)

/-- Asks for an invoice. -/
structure MintQuoteRequest where
  amount : Amount
  deriving DecidableEq

/-- An invoice to be paid to the mint. -/
structure MintQuote where
  id : String
  paymentRequest : String
  paymentHash : String
  deriving DecidableEq

/-- Asks for signatures once an invoice is paid. -/
structure MintRequest (S : Suite) where
  /-- The quote of the invoice. -/
  id : String
  outputs : List (Output S)
  deriving DecidableEq

/-- The signatures for a paid invoice. -/
structure MintResponse (S : Suite) where
  promises : List (Promise S)
  deriving DecidableEq

/-- Asks for signatures in exchange for proofs of the same value. -/
structure SplitRequest (S : Suite) where
  proofs : List (Proof S)
  outputs : List (Output S)
  deriving DecidableEq

/-- The signatures for proofs, in the order of the outputs. -/
structure SplitResponse (S : Suite) where
  promises : List (Promise S)
  deriving DecidableEq

/-- Asks what paying an invoice costs. -/
structure MeltQuoteRequest where
  paymentRequest : String
  deriving DecidableEq

/-- What paying an invoice costs, and what has to be held ready for fees. -/
structure MeltQuote where
  amount : Amount
  feeReserve : Amount
  deriving DecidableEq

/-- Asks to pay an invoice with proofs. -/
structure MeltRequest (S : Suite) where
  proofs : List (Proof S)
  paymentRequest : String
  /-- Outputs for the change. -/
  outputs : List (Output S)
  deriving DecidableEq

/-- The outcome of a payment. -/
structure MeltResponse (S : Suite) where
  paid : Bool
  preimage : Option String
  /-- Signatures of the first ones of the outputs. -/
  change : List (Promise S)
  deriving DecidableEq

/-- The fields of a request for an invoice. -/
def MintQuoteRequest.codec : Codec MintQuoteRequest :=
  (Codec.record "MintQuoteRequest" (.cons (.required "amount" Amount.codec) .nil)).map
    (fun (amount, _) => ⟨amount⟩) (fun r => (r.amount, ()))

/-- The fields of an invoice. -/
def MintQuote.codec : Codec MintQuote :=
  (Codec.record "MintQuoteResponse"
    (.cons (.required "id" Codec.string) <|
      .cons (.required "payment_request" Codec.string) <|
        .cons (.required "payment_hash" Codec.string) .nil)).map
    (fun (id, request, hash, _) => ⟨id, request, hash⟩)
    (fun q => (q.id, q.paymentRequest, q.paymentHash, ()))

/-- The fields of a request for signatures. -/
def MintRequest.codec (S : Suite) : Codec (MintRequest S) :=
  (Codec.record "MintRequest"
    (.cons (.required "id" Codec.string) <|
      .cons (.required "outputs" (Output.codec S).list) .nil)).map
    (fun (id, outputs, _) => ⟨id, outputs⟩) (fun r => (r.id, r.outputs, ()))

/-- The fields of the signatures for an invoice. -/
def MintResponse.codec (S : Suite) : Codec (MintResponse S) :=
  (Codec.record "MintResponse"
    (.cons (.required "signatures" (Promise.codec S).list) .nil)).map
    (fun (promises, _) => ⟨promises⟩) (fun r => (r.promises, ()))

/-- The fields of a request for an exchange. -/
def SplitRequest.codec (S : Suite) : Codec (SplitRequest S) :=
  (Codec.record "SplitRequest"
    (.cons (.required "proofs" (Proof.codec S).list) <|
      .cons (.required "outputs" (Output.codec S).list) .nil)).map
    (fun (proofs, outputs, _) => ⟨proofs, outputs⟩) (fun r => (r.proofs, r.outputs, ()))

/-- The fields of the signatures for proofs. -/
def SplitResponse.codec (S : Suite) : Codec (SplitResponse S) :=
  (Codec.record "SplitResponse"
    (.cons (.required "signatures" (Promise.codec S).list) .nil)).map
    (fun (promises, _) => ⟨promises⟩) (fun r => (r.promises, ()))

/-- The fields of a request for the cost of a payment. -/
def MeltQuoteRequest.codec : Codec MeltQuoteRequest :=
  (Codec.record "MeltQuoteRequest" (.cons (.required "payment_request" Codec.string) .nil)).map
    (fun (request, _) => ⟨request⟩) (fun r => (r.paymentRequest, ()))

/-- The fields of the cost of a payment. -/
def MeltQuote.codec : Codec MeltQuote :=
  (Codec.record "MeltQuoteResponse"
    (.cons (.required "amount" Amount.codec) <|
      .cons (.required "fee_reserve" Amount.codec) .nil)).map
    (fun (amount, reserve, _) => ⟨amount, reserve⟩) (fun q => (q.amount, q.feeReserve, ()))

/-- The fields of a request for a payment. -/
def MeltRequest.codec (S : Suite) : Codec (MeltRequest S) :=
  (Codec.record "MeltRequest"
    (.cons (.required "proofs" (Proof.codec S).list) <|
      .cons (.required "payment_request" Codec.string) <|
        .cons (.withDefault "outputs" (Output.codec S).list []) .nil)).map
    (fun (proofs, request, outputs, _) => ⟨proofs, request, outputs⟩)
    (fun r => (r.proofs, r.paymentRequest, r.outputs, ()))

/-- The fields of the outcome of a payment. -/
def MeltResponse.codec (S : Suite) : Codec (MeltResponse S) :=
  (Codec.record "MeltResponse"
    (.cons (.required "paid" Codec.bool) <|
      .cons (.omittable "preimage" Codec.string) <|
        .cons (.withDefault "change" (Promise.codec S).list []) .nil)).map
    (fun (paid, preimage, change, _) => ⟨paid, preimage, change⟩)
    (fun r => (r.paid, r.preimage, r.change, ()))

namespace SplitRequest

variable {S : Suite}

/-- The value of the proofs. -/
def inputTotal (r : SplitRequest S) : Except Amount.Error Amount := Proof.total r.proofs

/-- The value of the outputs. -/
def outputTotal (r : SplitRequest S) : Except Amount.Error Amount := Output.total r.outputs

end SplitRequest

/-- The value of the promises. -/
def SplitResponse.total {S : Suite} (r : SplitResponse S) : Except Amount.Error Amount :=
  Promise.total r.promises

/-- The value of the outputs. -/
def MintRequest.total {S : Suite} (r : MintRequest S) : Except Amount.Error Amount :=
  Output.total r.outputs

end Chaumian
