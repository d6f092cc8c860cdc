import Chaumian.Hash.Sha256
import Chaumian.Keyset.Secret
import Chaumian.Lightning.Basic
import Chaumian.Message.Exchange
import Chaumian.Message.Info
import Chaumian.Message.Refusal
import Chaumian.Message.State

/-!
A mint. It signs with keysets that follow from a seed, takes every invoice it issues for paid, and
pays only the invoices that it has issued itself; it takes no fee, and gives all that was paid too
much back as change.

A request that is refused changes nothing.
-/

namespace Chaumian

/-- An invoice that the mint has issued. -/
structure IssuedQuote where
  id : String
  amount : Amount
  preimage : Bytes
  /-- Whether proofs have been minted for it. -/
  minted : Bool
  deriving DecidableEq

/-- A mint. -/
structure Mint (S : Suite) where
  info : MintInfo S
  /-- The keysets, the current one last. -/
  keysets : List (SecretKeyset S)
  /-- The proofs it has taken, by the points of their secrets. -/
  spent : List S.Point
  quotes : List IssuedQuote
  /-- The payment requests it has issued, and the quotes they belong to. -/
  requests : List (String × String)

namespace Mint

variable {S : Suite}

/-- What the keys of a mint follow from. -/
def seed : String := "fake mint seed"

/-- The paths of the keysets, the current one last. -/
def paths : List String := ["0/0/0/0", "0/0/0/1"]

/-- The name of a mint. -/
def name : String := "Fake Mint"

/-- Where a mint is found. -/
def url : String := "https://fake.mint.example"

/-- What a mint tells about itself. -/
def ownInfo : MintInfo S where
  name := some name
  publicKey := none
  version := some "fake/0.1.0"
  description := some "In-process mint for wallet tests"
  contact := []
  motd := none

/-- A mint that has done nothing yet. -/
def create (S : Suite) : Except Key.Error (Mint S) := do
  let keysets ← paths.mapM fun path => SecretKeyset.generate S seed path .all
  return ⟨ownInfo, keysets, [], [], []⟩

/-- The refusal of a keyset that the mint does not have. -/
def keysetNotFound : Refusal := .of .keysetNotFound "Keyset not found"

/-- The refusal of amounts that do not fit together. -/
def unbalanced (detail : String) : Refusal := .of .unbalanced detail

/-- The refusal of proofs and outputs that cannot be verified or signed. -/
def notVerified (detail : String) : Refusal := .of .notVerified detail

/-- The current keyset. -/
def currentKeyset (m : Mint S) : Except Refusal (Keyset S) :=
  match m.keysets.getLast? with
  | some keyset => .ok keyset.toPublic
  | none => .error keysetNotFound

/-- The keyset of an identifier. -/
def keyset (m : Mint S) (id : KeysetId) : Except Refusal (Keyset S) :=
  match m.keysets.find? (·.id = id) with
  | some keyset => .ok keyset.toPublic
  | none => .error keysetNotFound

/-- All keysets. -/
def keysetList (m : Mint S) : KeysetList := ⟨m.keysets.map (·.id)⟩

/-- The keys for an amount in a keyset. -/
def keyPair (m : Mint S) (id : KeysetId) (amount : Amount) : Except Refusal (KeyPair S) :=
  match m.keysets.find? (·.id = id) with
  | none => .error keysetNotFound
  | some keyset =>
    match keyset.get? amount with
    | some pair => .ok pair
    | none => .error (unbalanced s!"No key for amount {amount.toText}")

/-- The promise of an output for an amount. -/
def sign (m : Mint S) (nonce : S.Scalar) (amount : Amount) (output : Output S) :
    Except Refusal (Promise S) := do
  let pair ← m.keyPair output.keysetId amount
  (Promise.make nonce pair.secretKey amount output).mapError fun e => notVerified e.message

/-- The promises of outputs, each for the amount beside it; the n-th signature is made with the n-th
nonce. -/
def signAll (m : Mint S) (nonces : Nat → S.Scalar) (wanted : List (Amount × Output S)) :
    Except Refusal (List (Promise S)) :=
  wanted.zipIdx.mapM fun ((amount, output), n) => m.sign (nonces n) amount output

/-- The promises of outputs for their own amounts. -/
def signOutputs (m : Mint S) (nonces : Nat → S.Scalar) (outputs : List (Output S)) :
    Except Refusal (List (Promise S)) :=
  m.signAll nonces (outputs.map fun o => (o.amount, o))

/-- Checks that each proof is signed with the key for its amount. -/
def checkSignatures (m : Mint S) : List (Proof S) → Except Refusal Unit
  | [] => .ok ()
  | p :: rest => do
    let pair ← m.keyPair p.keysetId p.amount
    (Blind.verify S pair.secretKey p.signature p.secret.toBytes).mapError
      fun e => notVerified e.message
    m.checkSignatures rest

/-- The points of proofs, if they are different, not yet taken, and signed by the mint. -/
def checkInputs (m : Mint S) (proofs : List (Proof S)) : Except Refusal (List S.Point) := do
  let ys ← (Proof.ys proofs).mapError fun e => notVerified e.message
  if !decide ys.Nodup then throw (.of .pending "proofs already pending.")
  if ys.any (m.spent.contains ·) then throw (.of .alreadySpent "Token already spent.")
  m.checkSignatures proofs
  return ys

/-- What is new in an invoice: its name, its preimage and the time. -/
structure Issue where
  id : String
  preimage : Bytes
  time : Nat

/-- Issues an invoice for an amount. -/
def quote (lightning : Lightning) (issue : Issue) (request : MintQuoteRequest) (m : Mint S) :
    Except Refusal (MintQuote × Mint S) := do
  if request.amount = .zero then throw (unbalanced "Amount must be positive")
  let hash := Sha256.hash issue.preimage
  let text ← (lightning.issue request.amount hash issue.time).mapError
    fun e => Refusal.of .lightning e.message
  return (⟨issue.id, text, Hex.encode hash⟩,
    { m with
      quotes := ⟨issue.id, request.amount, issue.preimage, false⟩ :: m.quotes
      requests := (text, issue.id) :: m.requests })

/-- The quote of a name. -/
def quote? (m : Mint S) (id : String) : Option IssuedQuote := m.quotes.find? (·.id = id)

/-- The value of outputs. -/
def outputTotal (outputs : List (Output S)) : Except Refusal Amount :=
  (Output.total outputs).mapError fun e => unbalanced e.message

/-- The value of proofs. -/
def inputTotal (proofs : List (Proof S)) : Except Refusal Amount :=
  (Proof.total proofs).mapError fun e => unbalanced e.message

/-- Signs outputs of the value of an invoice, once. -/
def mint (nonces : Nat → S.Scalar) (request : MintRequest S) (m : Mint S) :
    Except Refusal (MintResponse S × Mint S) := do
  let some quote := m.quote? request.id | throw (.of .quoteNotFound "Unknown quote")
  if quote.minted then
    throw (.of .alreadyIssued "Tokens have already been issued for quote")
  let total ← outputTotal request.outputs
  if total ≠ quote.amount then
    throw (unbalanced
      s!"Outputs of {total.toText} do not match quote of {quote.amount.toText}")
  let promises ← m.signOutputs nonces request.outputs
  return (⟨promises⟩,
    { m with quotes := m.quotes.map fun q =>
        if q.id = request.id then { q with minted := true } else q })

/-- Takes proofs and signs outputs of their value. -/
def split (nonces : Nat → S.Scalar) (request : SplitRequest S) (m : Mint S) :
    Except Refusal (SplitResponse S × Mint S) := do
  let ys ← m.checkInputs request.proofs
  let input ← inputTotal request.proofs
  let output ← outputTotal request.outputs
  if input ≠ output then
    throw (unbalanced s!"Inputs of {input.toText} do not match outputs of {output.toText}")
  let promises ← m.signOutputs nonces request.outputs
  return (⟨promises⟩, { m with spent := m.spent ++ ys })

/-- The quote of a payment request that the mint has issued. -/
def quoteOf (m : Mint S) (request : String) : Except Refusal IssuedQuote :=
  match (m.requests.lookup request).bind m.quote? with
  | some quote => .ok quote
  | none => .error (.of .quoteNotFound "Unknown payment request")

/-- The reserve asked for fees: a hundredth, and at least 2. -/
def feeReserve (amount : Amount) : Amount := .clamp (max (amount.toNat / 100) 2)

/-- What paying an invoice costs. -/
def meltQuote (request : MeltQuoteRequest) (m : Mint S) : Except Refusal MeltQuote := do
  let quote ← m.quoteOf request.paymentRequest
  return ⟨quote.amount, feeReserve quote.amount⟩

/-- Pays an invoice with proofs. What was paid too much is signed as change, as far as there are
outputs for it. -/
def melt (nonces : Nat → S.Scalar) (request : MeltRequest S) (m : Mint S) :
    Except Refusal (MeltResponse S × Mint S) := do
  let quote ← m.quoteOf request.paymentRequest
  let ys ← m.checkInputs request.proofs
  let input ← inputTotal request.proofs
  let some change := input.sub? quote.amount
    | throw (unbalanced s!"Inputs of {input.toText} do not cover {quote.amount.toText}")
  let parts ← (Denominations.all.decompose change).mapError fun e => unbalanced e.message
  let promises ← m.signAll nonces (parts.zip request.outputs)
  return (⟨true, some (Hex.encode quote.preimage), promises⟩,
    { m with spent := m.spent ++ ys })

/-- The states of proofs. -/
def checkState (request : CheckStateRequest S) (m : Mint S) : CheckStateResponse S :=
  ⟨request.ys.map fun y => ⟨y, if m.spent.contains y then .spent else .unspent⟩⟩

end Mint

end Chaumian
