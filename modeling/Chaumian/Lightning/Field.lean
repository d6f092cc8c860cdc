import Chaumian.Lightning.Bech32
import Chaumian.Secp256k1.Group
import Chaumian.Text.Utf8

/-!
The fields of a payment request: each is a tag, its length in two digits, and its content.
-/

namespace Chaumian.Lightning

/-- One of the channels that a payment may be routed through, from the node of its near end. -/
structure Hop where
  node : Secp256k1.Point
  /-- The channel's name and its fees. -/
  terms : Bytes
  deriving DecidableEq

/-- A field. -/
inductive Field where
  | paymentHash (hash : Bytes)
  | paymentSecret (secret : Bytes)
  | description (text : String)
  | descriptionHash (hash : Bytes)
  /-- The key of the node that is paid. -/
  | payee (key : Secp256k1.Point)
  /-- After how many seconds the request expires. -/
  | expiry (seconds : Nat)
  /-- How many blocks the last channel leaves to claim the payment. -/
  | finalDelta (blocks : Nat)
  /-- An address on the chain to pay to otherwise. -/
  | fallback (version : Quintet) (program : Bytes)
  | route (hops : List Hop)
  /-- What the payer has to know, as a set of bits. -/
  | features (bits : Nat)
  | metadata (data : Bytes)
  /-- A field that is not known, or not of the length that it should be. -/
  | other (tag : Quintet) (content : List Quintet)
  deriving DecidableEq

namespace Field

/-- How many bytes tell the terms of a hop. -/
def termsLength : Nat := 18

/-- The hops that bytes hold, each a key and its terms. -/
def hops? (bytes : Bytes) : Option (List Hop) :=
  if bytes.isEmpty then some []
  else if bytes.length < 33 + termsLength then none
  else do
    let node ← Secp256k1.Point.decompress? (bytes.take 33)
    let rest ← hops? (bytes.drop (33 + termsLength))
    return ⟨node, (bytes.drop 33).take termsLength⟩ :: rest
termination_by bytes.length
decreasing_by simp; omega

/-- The number that digits spell, if it fits 64 bits. -/
def word? (digits : List Quintet) : Option Nat :=
  let n := Quintet.toNat digits
  if n < Nat.pow 2 64 then some n else none

/-- The address that digits hold: a version up to 16 and its program, or 17 or 18 and a hash of a
key or a script. -/
def address? (content : List Quintet) : Option Field := do
  let version :: rest := content | none
  let program := Quintet.toBytes rest
  let fits : Bool :=
    if version.val ≤ 16 then 2 ≤ program.length ∧ program.length ≤ 40
    else version.val > 18 ∨ program.length = 20
  if !fits then none
  else if version.val ≤ 18 then some (.fallback version program)
  else some (.other (.last 9) content)

/-- The tag of a field. -/
def tag : Field → Quintet
  | .paymentHash _ => .last 1
  | .route _ => .last 3
  | .features _ => .last 5
  | .expiry _ => .last 6
  | .fallback .. => .last 9
  | .description _ => .last 13
  | .paymentSecret _ => .last 16
  | .payee _ => .last 19
  | .descriptionHash _ => .last 23
  | .finalDelta _ => .last 24
  | .metadata _ => .last 27
  | .other tag _ => tag

/-- The content of a field. -/
def content : Field → List Quintet
  | .paymentHash bytes | .paymentSecret bytes | .descriptionHash bytes | .metadata bytes =>
    Quintet.ofBytes bytes
  | .route hops => Quintet.ofBytes (hops.flatMap fun h => h.node.compress ++ h.terms)
  | .features n | .expiry n | .finalDelta n => Quintet.shortest n
  | .fallback version program => version :: Quintet.ofBytes program
  | .description text => Quintet.ofBytes (Bytes.ofText text)
  | .payee key => Quintet.ofBytes key.compress
  | .other _ content => content

/-- Reads the content of a field. Where hashes, the payment secret or the payee's key have another
length than they should, the field counts as one that is not known. -/
def ofContent? (tag : Quintet) (content : List Quintet) : Option Field :=
  let bytes := Quintet.toBytes content
  let sized (length : Nat) (field : Option Field) : Option Field :=
    if content.length = length then field else some (.other tag content)
  match tag.val with
  | 1 => sized 52 (some (.paymentHash bytes))
  | 3 => (hops? bytes).map .route
  | 5 => some (.features (Quintet.toNat content))
  | 6 => (word? content).map .expiry
  | 9 => address? content
  | 13 => (Utf8.decode bytes).toOption.map .description
  | 16 => sized 52 (some (.paymentSecret bytes))
  | 19 => sized 53 ((Secp256k1.Point.decompress? bytes).map .payee)
  | 23 => sized 52 (some (.descriptionHash bytes))
  | 24 => (word? content).map .finalDelta
  | 27 => some (.metadata bytes)
  | _ => some (.other tag content)

/-- A field as digits. -/
def toDigits (field : Field) : List Quintet :=
  field.tag :: Quintet.ofNat 2 field.content.length ++ field.content

/-- The fields that digits hold, one after the other. -/
def listOfDigits? : List Quintet → Option (List Field)
  | [] => some []
  | tag :: high :: low :: rest => do
    let length := Quintet.toNat [high, low]
    if rest.length < length then none
    let field ← ofContent? tag (rest.take length)
    return field :: (← listOfDigits? (rest.drop length))
  | _ => none
termination_by digits => digits.length
decreasing_by simp; omega

end Field

end Chaumian.Lightning
