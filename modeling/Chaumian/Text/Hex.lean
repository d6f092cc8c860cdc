import Chaumian.Bytes
import Chaumian.Number.Digits

/-!
Hexadecimal text: two digits a byte, lower case when written, either case when read.
-/

namespace Chaumian.Hex

/-- What keeps a text from being hexadecimal. -/
inductive Error where
  /-- A character that is no hexadecimal digit. -/
  | invalidDigit
  /-- A text of odd length. -/
  | oddLength
  deriving DecidableEq, Repr

/-- The wording of an error. -/
def Error.message : Error → String
  | .invalidDigit => "invalid char, failed to create bytes from hex"
  | .oddLength => "odd length, failed to create bytes from hex"

/-- The digit of a value below sixteen. -/
def digit (n : Nat) : Char :=
  if n < 10 then Char.ofNat (48 + n) else Char.ofNat (87 + n)

/-- The digits of a string of bytes. -/
def encodeChars (bytes : Bytes) : List Char :=
  bytes.flatMap fun b => [digit (b.toNat / 16), digit (b.toNat % 16)]

/-- Lower-case hexadecimal text. -/
def encode (bytes : Bytes) : String := String.ofList (encodeChars bytes)

/-- The bytes that pairs of digits spell; a last character without a partner is no digit. -/
def decodeChars : List Char → Except Error Bytes
  | [] => .ok []
  | [_] => .error .invalidDigit
  | hi :: lo :: rest =>
    match Digits.value? 16 hi, Digits.value? 16 lo with
    | some h, some l => do
      let bytes ← decodeChars rest
      return UInt8.ofNat (16 * h + l) :: bytes
    | _, _ => .error .invalidDigit

/-- The bytes a text spells; the length is judged, in bytes, before any digit is. -/
def decode (text : String) : Except Error Bytes :=
  if text.utf8ByteSize % 2 = 1 then .error .oddLength else decodeChars text.toList

end Chaumian.Hex
