import Chaumian.CurrencyUnit
import Chaumian.Json.Fault
import Chaumian.MintUrl
import Chaumian.Proof
import Chaumian.Text.Base64
import Chaumian.Text.Blank
import Chaumian.Text.Utf8

/-!
Tokens: proofs handed from one holder to another as a text, which is a fixed beginning followed by
JSON in base64.
-/

namespace Chaumian

/-- Proofs of one mint. -/
structure TokenEntry (S : Suite) where
  mint : MintUrl
  proofs : List (Proof S)
  deriving DecidableEq

/-- Proofs by mint, with a note to the receiver. -/
structure Token (S : Suite) where
  entries : List (TokenEntry S)
  memo : Option String
  deriving DecidableEq

/-- The fields of an entry in JSON. -/
def TokenEntry.codec (S : Suite) : Json.Codec (TokenEntry S) :=
  (Json.Codec.record "TokenEntry"
    (.cons (.required "mint" MintUrl.codec) <|
      .cons (.required "proofs" (Proof.codec S).list) .nil)).map
    (fun (mint, proofs, _) => ⟨mint, proofs⟩) (fun e => (e.mint, e.proofs, ()))

namespace Token

/-- What can be wrong with a token, with the proofs in it or with what is exchanged for them. -/
inductive Error where
  /-- There are no proofs. -/
  | noProofs
  /-- The text begins otherwise. -/
  | unsupported
  | unit (cause : CurrencyUnit.Error)
  /-- There are not as many signatures as outputs. -/
  | signatureCount (expected found : Nat)
  | amount (cause : Amount.Error)
  | blind (cause : Blind.Error)
  | url (cause : MintUrl.Error)
  | utf8 (cause : Utf8.Error)
  | json (cause : Json.Fault)
  | base64 (cause : Base64.Error)
  deriving DecidableEq

/-- The wording of an error. -/
def Error.message : Error → String
  | .noProofs => "Proofs required in token"
  | .unsupported => "Unsupported token"
  | .unit cause => cause.message
  | .signatureCount expected found => s!"Expected {expected} signatures, got {found}"
  | .amount cause => cause.message
  | .blind cause => cause.message
  | .url cause => cause.message
  | .utf8 cause => cause.message
  | .json cause => cause.message
  | .base64 cause => cause.message

variable {S : Suite}

/-- The fields of a token in JSON. -/
def codec (S : Suite) : Json.Codec (Token S) :=
  (Json.Codec.record "Token"
    (.cons (.required "token" (TokenEntry.codec S).list) <|
      .cons (.omittable "memo" Json.Codec.string) .nil)).map
    (fun (entries, memo, _) => ⟨entries, memo⟩) (fun t => (t.entries, t.memo, ()))

/-- The token of proofs of one mint; there has to be one. -/
def ofProofs (mint : MintUrl) (proofs : List (Proof S)) (memo : Option String) :
    Except Error (Token S) :=
  if proofs = [] then .error .noProofs else .ok ⟨[⟨mint, proofs⟩], memo⟩

/-- All proofs, in their order. -/
def proofs (t : Token S) : List (Proof S) := t.entries.flatMap (·.proofs)

/-- The mints. -/
def mints (t : Token S) : List MintUrl := t.entries.map (·.mint)

/-- The value of all proofs. -/
def value (t : Token S) : Except Amount.Error Amount := Proof.total t.proofs

/-- What the text of a token begins with. -/
def beginning : List Char := "cashuA".toList

/-- The text of a token. -/
def toText (t : Token S) : String :=
  let symbols := Base64.encode .urlSafe (Bytes.ofText ((codec S).toText t))
  String.ofList (beginning ++ symbols.map fun b => Char.ofNat b.toNat)

/-- The token a text stands for, blanks at its ends aside. The padding of the base64 may be
missing, and there has to be a proof. -/
def ofText (S : Suite) (text : String) : Except Error (Token S) := do
  let some body := Text.after? beginning (Text.trim text.toList) | throw .unsupported
  let symbols := Bytes.ofText (String.ofList body)
  let bytes ← (Base64.decode .urlSafe .optional symbols).mapError .base64
  let json ← (Utf8.decode bytes).mapError .utf8
  let token ← ((codec S).ofText json).mapError .json
  if token.proofs = [] then throw .noProofs
  return token

end Token

end Chaumian
