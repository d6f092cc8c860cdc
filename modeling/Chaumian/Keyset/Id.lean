import Chaumian.Json.Codec
import Chaumian.Text.Base64

/-!
Identifiers of keysets: nine bytes, written as twelve symbols of base64.
-/

namespace Chaumian

/-- The identifier of a keyset. -/
structure KeysetId where
  bytes : Bytes
  length_bytes : bytes.length = 9
  deriving DecidableEq

namespace KeysetId

/-- What keeps a text from being an identifier. -/
inductive Error where
  | base64 (cause : Base64.Error)
  /-- The text is not twelve bytes long, or stands for fewer than nine. -/
  | wrongLength
  deriving DecidableEq, Repr

/-- The wording of an error. -/
def Error.message : Error → String
  | .base64 cause => cause.message
  | .wrongLength => "NUT02: Id invalid length"

theorem ext {a b : KeysetId} (h : a.bytes = b.bytes) : a = b := by
  cases a; cases b; cases h; rfl

/-- The length of the text of an identifier. -/
def textLength : Nat := 12

/-- The identifier of nine bytes. -/
def ofBytes? (bytes : Bytes) : Option KeysetId :=
  if h : bytes.length = 9 then some ⟨bytes, h⟩ else none

/-- The text of an identifier, in the standard alphabet. -/
def toText (id : KeysetId) : String :=
  String.ofList ((Base64.encode .standard id.bytes).map fun b => Char.ofNat b.toNat)

/-- The identifier a text stands for, in either alphabet. -/
def ofText (text : String) : Except Error KeysetId :=
  let symbols := Bytes.ofText text
  if symbols.length ≠ textLength then .error .wrongLength
  else
    let decoded : Except Base64.Error Bytes :=
      match Base64.decode .urlSafe .required symbols with
      | .ok bytes => .ok bytes
      | .error _ => Base64.decode .standard .required symbols
    match decoded with
    | .ok bytes => (ofBytes? bytes).elim (.error .wrongLength) .ok
    | .error cause => .error (.base64 cause)

/-- The wording of an error where an identifier is read from JSON. -/
def describe (text : String) : Error → String
  | .base64 cause => cause.message
  | .wrongLength => s!"Invalid Length: Expected {textLength}, got {text.utf8ByteSize}"

/-- Identifiers in JSON are their texts. -/
def codec : Json.Codec KeysetId :=
  (Json.Codec.stringAs "a 12-character Base64 string").refine
    (fun s => (ofText s).mapError (describe s)) toText

end KeysetId

end Chaumian
