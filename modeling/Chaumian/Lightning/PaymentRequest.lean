import Chaumian.Hash.Sha256
import Chaumian.Lightning.Basic
import Chaumian.Lightning.Field
import Chaumian.Number.Digits
import Chaumian.Secp256k1.Ecdsa
import Chaumian.Text.Hex

/-!
Requests for payments over Lightning: a network and an amount, the time, and fields, signed by the
node that is to be paid.
-/

namespace Chaumian

open Secp256k1 (Point RecoverableSignature groupOrder)

namespace Lightning

/-- The networks that payments run on. -/
inductive Network where
  | main
  | test
  | regression
  | simulation
  | signet
  deriving DecidableEq, Repr

namespace Network

/-- The networks. -/
def all : List Network := [.main, .test, .regression, .simulation, .signet]

/-- The name of a network. -/
def toText : Network → String
  | .main => "bc"
  | .test => "tb"
  | .regression => "bcrt"
  | .simulation => "sb"
  | .signet => "tbs"

/-- The network of a name. -/
def ofText? (text : String) : Option Network := all.find? (·.toText = text)

end Network

/-- The units of an amount, the largest first, and how many of the smallest one each is. -/
def units : List (Char × Nat) :=
  [('m', 1000000000), ('u', 1000000), ('n', 1000), ('p', 1)]

/-- How many of the smallest units a coin is. -/
def coin : Nat := 1000000000000

/-- How many of the smallest units a thousandth is. -/
def perThousandth : Nat := 10

/-- The amount that digits and, perhaps, a unit spell. The digits fit 64 bits, and with a unit so
does the amount. -/
def amount? (digits unit : List Char) : Option Nat := do
  let n ← Digits.toNat? 10 digits
  if Nat.pow 2 64 ≤ n then none
  match unit with
  | [] => some (n * coin)
  | [c] =>
    let size ← units.lookup c
    if n * size < Nat.pow 2 64 then some (n * size) else none
  | _ => none

/-- An amount in digits and the largest unit it is a multiple of. -/
def amountText (amount : Nat) : String :=
  match units.find? (amount % ·.2 = 0) with
  | some (unit, size) => (toString (amount / size)).push unit
  | none => toString amount

end Lightning

/-- A payment request. -/
structure PaymentRequest where
  network : Lightning.Network
  /-- The amount, if the payer is not free to choose it, in the smallest unit. -/
  amount : Option Nat
  /-- When it was issued, in seconds. -/
  time : Nat
  fields : List Lightning.Field
  deriving DecidableEq

namespace PaymentRequest

open Lightning

/-- How many digits the time takes. -/
def timeLength : Nat := 7

/-- How many digits the signature takes. -/
def signatureLength : Nat := 104

/-- The payment hashes. -/
def paymentHashes (r : PaymentRequest) : List Bytes :=
  r.fields.filterMap fun
    | .paymentHash hash => some hash
    | _ => none

/-- The payment secrets. -/
def paymentSecrets (r : PaymentRequest) : List Bytes :=
  r.fields.filterMap fun
    | .paymentSecret secret => some secret
    | _ => none

/-- How many descriptions and hashes of descriptions there are. -/
def descriptionCount (r : PaymentRequest) : Nat :=
  r.fields.countP fun
    | .description _ | .descriptionHash _ => true
    | _ => false

/-- The key of the node that is paid, if it is told. -/
def payee? (r : PaymentRequest) : Option Point :=
  r.fields.findSome? fun
    | .payee key => some key
    | _ => none

/-- The set of features, if there is one. -/
def features? (r : PaymentRequest) : Option Nat :=
  r.fields.findSome? fun
    | .features bits => some bits
    | _ => none

/-- The even bits of the features that are known: onions of any length, payment secrets, payments
in several parts, metadata, and routing by others. An even bit says that the payer must know a
feature, and the odd bit above it that the payer may use it. -/
def knownFeatures : List Nat := [8, 14, 16, 48, 56]

/-- The bit that says that the payment secret must be known. -/
def secretFeature : Nat := 14

/-- Whether all that must be known is known, and the payment secret is among what may be used. -/
def acceptsFeatures (bits : Nat) : Bool :=
  let required := (List.range (bits.log2 + 1)).filter fun i => i % 2 = 0 ∧ bits.testBit i
  required.all (knownFeatures.contains ·) &&
    (bits.testBit secretFeature || bits.testBit (secretFeature + 1))

/-- Whether a request has one payment hash, one payment secret and one description, features that
are accepted, and an amount in whole thousandths. -/
def isComplete (r : PaymentRequest) : Bool :=
  r.paymentHashes.length = 1 && r.paymentSecrets.length = 1 && r.descriptionCount = 1 &&
    r.features?.any acceptsFeatures && r.amount.all (· % perThousandth = 0)

/-- The readable part of a request. -/
def readable (r : PaymentRequest) : String :=
  "ln" ++ r.network.toText ++ (r.amount.map amountText).getD ""

/-- The digits of a request up to the signature. -/
def body (r : PaymentRequest) : List Quintet :=
  Quintet.ofNat timeLength r.time ++ r.fields.flatMap Field.toDigits

/-- What is signed: the hash of the readable part and the digits, filled up with zero bits to whole
bytes. -/
def digest (readable : String) (body : List Quintet) : Bytes :=
  let fill := (8 - body.length * 5 % 8) % 8
  let width := (body.length * 5 + fill) / 8
  Sha256.hash (Bytes.ofText readable ++ Bytes.ofNat width (Quintet.toNat body <<< fill))

/-- The text of a request signed with a key. -/
def sign? (key : Scalar groupOrder) (r : PaymentRequest) : Option String := do
  let signature ← RecoverableSignature.sign? key (digest r.readable r.body)
  return (Bech32.mk r.readable (r.body ++ Quintet.ofBytes signature.toBytes)).toText

/-- The network and the amount that a readable part tells. -/
def ofReadable? (readable : String) : Option (Network × Option Nat) := do
  let 'l' :: 'n' :: chars := readable.toList | none
  let (name, rest) := chars.span (!·.isDigit)
  let network ← Network.ofText? (String.ofList name)
  if rest.isEmpty then return (network, none)
  let (digits, unit) := rest.span (·.isDigit)
  return (network, some (← amount? digits unit))

/-- Reads a request: it is complete, and signed by the payee if that is told. -/
def ofText? (text : String) : Option PaymentRequest := do
  let b ← Bech32.ofText? text
  let length := b.digits.length - signatureLength
  if b.digits.length < signatureLength + timeLength then none
  let (network, amount) ← ofReadable? b.readable
  let body := b.digits.take length
  let fields ← Field.listOfDigits? (body.drop timeLength)
  let request : PaymentRequest :=
    ⟨network, amount, Quintet.toNat (body.take timeLength), fields⟩
  let signature ← RecoverableSignature.ofBytes? (Quintet.toBytes (b.digits.drop length))
  if !request.isComplete then none
  let digest := digest b.readable body
  let _ ← signature.recover? digest
  if request.payee?.all (signature.verifies digest) then some request else none

/-- The payment hash. -/
def paymentHash? (r : PaymentRequest) : Option Bytes := r.paymentHashes.head?

/-- The amount in thousandths. -/
def thousandths? (r : PaymentRequest) : Option Nat := r.amount.map (· / perThousandth)

/-- What a request that a mint issues says beside the payment hash: its description, a payment
secret, that the payer must know it and onions of any length, and a day to claim the payment. -/
def fieldsFor (description : String) (paymentHash : Bytes) : List Field :=
  [.description description, .paymentHash paymentHash,
    .paymentSecret (List.replicate 32 42), .features (1 <<< 8 + 1 <<< secretFeature),
    .finalDelta 144]

/-- A request for an amount, signed with a key. -/
def issue (key : Scalar groupOrder) (description : String) (amount : Amount)
    (paymentHash : Bytes) (time : Nat) : Except Lightning.Error String :=
  let thousandths := amount.toNat * 1000
  if Nat.pow 2 64 ≤ thousandths then .error .amountOutOfRange
  else if Nat.pow 2 64 ≤ thousandths * perThousandth then .error .amountTooLarge
  else if Nat.pow 2 (timeLength * 5) ≤ time then .error .timeOutOfRange
  else
    let request : PaymentRequest :=
      ⟨.main, some (thousandths * perThousandth), time, fieldsFor description paymentHash⟩
    match request.sign? key with
    | some text => .ok text
    | none => .error .notSigned

end PaymentRequest

/-- The payments of a node with a key, which describes all requests that it issues alike. -/
def Lightning.ofNode (key : Scalar groupOrder) (description : String) : Lightning where
  paymentHash? text := do return Hex.encode (← (← PaymentRequest.ofText? text).paymentHash?)
  issue := PaymentRequest.issue key description

end Chaumian
