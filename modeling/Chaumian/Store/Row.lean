import Chaumian.Proof

/-!
What a wallet keeps: proofs with their state, and the invoices they were paid for or with.
-/

namespace Chaumian

open Json (Codec)

/-- The state of a kept proof. -/
inductive ProofStatus where
  /-- Free to be spent. -/
  | unspent
  /-- Set aside for a transfer that is not yet complete. -/
  | reserved
  /-- Taken by the mint, for good. -/
  | spent
  deriving DecidableEq, Repr

namespace ProofStatus

/-- All states. -/
def all : List ProofStatus := [unspent, reserved, spent]

/-- The name of a state. -/
def toText : ProofStatus → String
  | unspent => "unspent"
  | reserved => "reserved"
  | spent => "spent"

/-- States in JSON are their names. -/
def codec : Codec ProofStatus := .variants all toText

end ProofStatus

/-- A proof with what the wallet knows of it. -/
structure ProofRow (S : Suite) where
  proof : Proof S
  /-- The point of its secret, under which it is kept. -/
  y : S.Point
  status : ProofStatus
  /-- The invoice it was minted for. -/
  mintId : Option String
  /-- The payment it was given for. -/
  meltId : Option String
  deriving DecidableEq

namespace ProofRow

variable {S : Suite}

/-- The row of a proof. -/
def make (status : ProofStatus) (mintId : Option String) (p : Proof S) :
    Except Blind.Error (ProofRow S) := do
  return ⟨p, ← p.y, status, mintId, none⟩

/-- The rows of proofs. -/
def ofProofs (proofs : List (Proof S)) (status : ProofStatus) (mintId : Option String) :
    Except Blind.Error (List (ProofRow S)) :=
  proofs.mapM (make status mintId)

/-- The fields of a row. -/
def codec (S : Suite) : Codec (ProofRow S) :=
  (Codec.record "ProofInfo"
    (.cons (.required "proof" (Proof.codec S)) <|
      .cons (.required "y" (Key.publicCodec S)) <|
        .cons (.required "state" ProofStatus.codec) <|
          .cons (.nullable "mint_id" Codec.string) <|
            .cons (.nullable "melt_id" Codec.string) .nil)).map
    (fun (proof, y, status, mintId, meltId, _) => ⟨proof, y, status, mintId, meltId⟩)
    (fun r => (r.proof, r.y, r.status, r.mintId, r.meltId, ()))

end ProofRow

/-- Who pays an invoice. -/
inductive Direction where
  /-- It is paid to the mint, for new proofs. -/
  | incoming
  /-- The mint pays it, with proofs. -/
  | outgoing
  deriving DecidableEq, Repr

namespace Direction

/-- The name of a direction. -/
def toText : Direction → String
  | incoming => "incoming"
  | outgoing => "outgoing"

/-- Directions in JSON are their names. -/
def codec : Codec Direction := .variants [incoming, outgoing] toText

end Direction

/-- An invoice. -/
structure Invoice where
  /-- The mint's quote, or the payment's own name. -/
  id : String
  paymentHash : String
  paymentRequest : String
  amount : Amount
  direction : Direction
  settled : Bool
  preimage : Option String
  deriving DecidableEq

/-- The fields of an invoice. -/
def Invoice.codec : Codec Invoice :=
  (Codec.record "Invoice"
    (.cons (.required "id" Codec.string) <|
      .cons (.required "payment_hash" Codec.string) <|
        .cons (.required "payment_request" Codec.string) <|
          .cons (.required "amount" Amount.codec) <|
            .cons (.required "direction" Direction.codec) <|
              .cons (.required "settled" Codec.bool) <|
                .cons (.nullable "preimage" Codec.string) .nil)).map
    (fun (id, hash, request, amount, direction, settled, preimage, _) =>
      ⟨id, hash, request, amount, direction, settled, preimage⟩)
    (fun i => (i.id, i.paymentHash, i.paymentRequest, i.amount, i.direction, i.settled,
      i.preimage, ()))

end Chaumian
