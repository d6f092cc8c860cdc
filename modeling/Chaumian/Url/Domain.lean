import Chaumian.Bytes
import Chaumian.Text.Utf8
import Chaumian.Url.Host
import Chaumian.Url.Label

/-!
Domain names in URLs: bytes written as `%` and two digits are put back, characters become those
they stand for, some ASCII characters may not occur, and the parts have to be those of a name.
-/

namespace Chaumian.Url

/-- The bytes of a text with those put back that are written as `%` and two digits. -/
def percentDecode : Bytes → Bytes
  | 37 :: a :: b :: rest =>
    match Digits.value? 16 (Char.ofNat a.toNat), Digits.value? 16 (Char.ofNat b.toNat) with
    | some h, some l => UInt8.ofNat (16 * h + l) :: percentDecode rest
    | _, _ => 37 :: percentDecode (a :: b :: rest)
  | byte :: rest => byte :: percentDecode rest
  | [] => []

/-- Whether a character may not occur in a domain name. -/
def isForbidden (c : Char) : Bool :=
  c ≤ ' ' || c = '\x7f' || "%#/:<>?@[\\]^|".toList.contains c

/-- Whether a name needs no closer look: it is of ASCII, and no part of it is written in Punycode. -/
def isPlain (name : List Char) : Bool :=
  name.all (·.toNat < 128) && (splitDots name).all (·.take 4 ≠ punycodeMark)

/-- The domain name that a text stands for. -/
def domainOf? (cs : List Char) : Option (List Char) := do
  let text ← (Utf8.decode (percentDecode (Bytes.ofText (String.ofList cs)))).toOption
  let name := (← text.toList.mapM mapChar).flatten
  if name.any isForbidden then none
  else if isPlain name then some name
  else if areLabels (← (splitDots name).mapM readLabel?) then some name
  else none

end Chaumian.Url
