import Chaumian.Bytes

/-!
Bech32: a readable part, the separator `1`, and digits of five bits, the last six of which are a
checksum over all that comes before them.
-/

namespace Chaumian

/-- A digit of five bits. -/
abbrev Quintet := Fin 32

namespace Quintet

/-- The digit of the lowest five bits of a number. -/
def last (n : Nat) : Quintet := Fin.ofNat 32 n

/-- The characters of the digits, in their order. -/
def alphabet : List Char := "qpzry9x8gf2tvdw0s3jn54khce6mua7l".toList

/-- The character of a digit. -/
def toChar (q : Quintet) : Char := alphabet.getD q.val 'q'

/-- The digit of a character, in either case. -/
def ofChar? (c : Char) : Option Quintet :=
  (List.finRange 32).find? fun q => q.toChar = c.toLower

/-- The number that digits spell, the most significant first. -/
def toNat (digits : List Quintet) : Nat := digits.foldl (fun n q => n * 32 + q.val) 0

/-- A number in `width` digits, the most significant first. -/
def ofNat : (width : Nat) → Nat → List Quintet
  | 0, _ => []
  | width + 1, n => ofNat width (n / 32) ++ [last n]

/-- A number in as few digits as it takes. -/
def shortest (n : Nat) : List Quintet := if n = 0 then [] else ofNat (n.log2 / 5 + 1) n

/-- The bytes that digits hold; bits left over at the end are dropped. -/
def toBytes (digits : List Quintet) : Bytes :=
  let bits := digits.length * 5
  Bytes.ofNat (bits / 8) (toNat digits >>> (bits % 8))

/-- The digits that hold bytes, the last one filled up with zero bits. -/
def ofBytes (bytes : Bytes) : List Quintet :=
  let bits := bytes.length * 8
  let width := (bits + 4) / 5
  ofNat width (Bytes.toNat bytes <<< (width * 5 - bits))

end Quintet

/-- A readable part in lower case, and digits. -/
structure Bech32 where
  readable : String
  digits : List Quintet
  deriving DecidableEq

namespace Bech32

/-- What the bits shifted out at the top of a residue are replaced by. -/
def generators : List Nat := [0x3b6a57b2, 0x26508e6d, 0x1ea119fa, 0x3d4233dd, 0x2a1462b3]

/-- The residue with a digit appended. -/
def step (residue : Nat) (q : Quintet) : Nat :=
  let top := residue >>> 25
  let shifted := (residue % (1 <<< 25)) <<< 5 ^^^ q.val
  generators.zipIdx.foldl (fun r (g, i) => if top.testBit i then r ^^^ g else r) shifted

/-- The residue of digits. -/
def residue (digits : List Quintet) : Nat := digits.foldl step 1

/-- The digits of a readable part that the checksum is taken over: the upper bits of all its
characters, a zero, and the lower bits. -/
def expand (readable : String) : List Quintet :=
  let chars := readable.toList
  chars.map (fun c => Quintet.last (c.toNat / 32)) ++ 0 ::
    chars.map (fun c => Quintet.last c.toNat)

/-- The six digits after which the residue is 1. -/
def checksum (b : Bech32) : List Quintet :=
  Quintet.ofNat 6 (residue (expand b.readable ++ b.digits ++ List.replicate 6 0) ^^^ 1)

/-- How many characters a text has at most. -/
def maxLength : Nat := 7089

/-- How many characters a readable part has at most. -/
def maxReadable : Nat := 83

/-- The text of a readable part and digits. -/
def toText (b : Bech32) : String :=
  b.readable ++ "1" ++ String.ofList ((b.digits ++ b.checksum).map Quintet.toChar)

/-- Reads a text. The separator is the last `1`; letters are of one case; the readable part is of
visible ASCII characters. -/
def ofText? (text : String) : Option Bech32 := do
  let chars := text.toList
  if chars.length > maxLength then none
  if chars.any Char.isUpper ∧ chars.any Char.isLower then none
  let (digits, front) := chars.reverse.span (· ≠ '1')
  let _ :: readable := front | none
  if readable.isEmpty ∨ readable.length > maxReadable then none
  if readable.any fun c => c.toNat < 33 ∨ 126 < c.toNat then none
  let readable := String.ofList (readable.reverse.map Char.toLower)
  let digits ← digits.reverse.mapM Quintet.ofChar?
  if digits.length < 6 ∨ residue (expand readable ++ digits) ≠ 1 then none
  return ⟨readable, digits.take (digits.length - 6)⟩

end Bech32

end Chaumian
