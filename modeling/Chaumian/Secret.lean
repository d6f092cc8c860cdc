import Chaumian.Bytes
import Chaumian.Json.Codec

/-!
Secrets: the texts whose holder may spend a proof. They are never shown in messages.
-/

namespace Chaumian

/-- A secret. -/
structure Secret where
  text : String
  deriving DecidableEq

namespace Secret

/-- What keeps a text from being a secret. -/
inductive Error where
  | empty
  deriving DecidableEq, Repr

/-- The wording of an error. -/
def Error.message : Error → String
  | .empty => "Secret is empty"

/-- The secret of a text that is not empty. -/
def ofText (text : String) : Except Error Secret :=
  if text = "" then .error .empty else .ok ⟨text⟩

/-- The bytes that are blinded. -/
def toBytes (s : Secret) : Bytes := Bytes.ofText s.text

/-- What stands for a secret in messages. -/
def redacted (_ : Secret) : String := "Secret([REDACTED])"

/-- Secrets in JSON are strings; there the empty one is let pass. -/
def codec : Json.Codec Secret := Json.Codec.string.map Secret.mk Secret.text

end Secret

end Chaumian
