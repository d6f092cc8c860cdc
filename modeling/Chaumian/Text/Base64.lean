import Chaumian.Bytes

/-!
Base64: each symbol of an alphabet of 64 stands for six bits, and a last group of two or three
symbols for one or two bytes. A last group may be filled up to four with `=`.
-/

namespace Chaumian.Base64

/-- The two symbols in which the alphabets differ. -/
inductive Alphabet where
  /-- The last symbols are `+` and `/`. -/
  | standard
  /-- The last symbols are `-` and `_`. -/
  | urlSafe
  deriving DecidableEq, Repr

/-- Whether a last group of two or three symbols has to be filled up. -/
inductive Padding where
  | required
  | optional
  deriving DecidableEq, Repr

/-- What keeps a text from being base64. -/
inductive Error where
  /-- A byte, at its offset, that is no symbol or is padding where none may stand. -/
  | invalidByte (offset : Nat) (byte : UInt8)
  /-- A last group of a single symbol. -/
  | invalidLength
  /-- A last symbol, at its offset, with bits that no byte takes up. -/
  | invalidLastSymbol (offset : Nat) (byte : UInt8)
  /-- A last group that is not filled up though it has to be. -/
  | invalidPadding
  deriving DecidableEq, Repr

/-- The wording of an error. -/
def Error.message : Error → String
  | .invalidByte offset byte => s!"Invalid byte {byte}, offset {offset}."
  | .invalidLength => "Encoded text cannot have a 6-bit remainder."
  | .invalidLastSymbol offset byte => s!"Invalid last symbol {byte}, offset {offset}."
  | .invalidPadding => "Invalid padding"

/-- The symbol of a six-bit value. -/
def symbol (alphabet : Alphabet) (v : Nat) : UInt8 :=
  if v < 26 then UInt8.ofNat (65 + v)
  else if v < 52 then UInt8.ofNat (71 + v)
  else if v < 62 then UInt8.ofNat (v - 4)
  else
    match alphabet with
    | .standard => if v = 62 then 43 else 47
    | .urlSafe => if v = 62 then 45 else 95

/-- The value of a symbol. -/
def value? (alphabet : Alphabet) (byte : UInt8) : Option Nat :=
  (List.range 64).find? fun v => symbol alphabet v = byte

/-- The padding byte, `=`. -/
def pad : UInt8 := 61

/-- The values a string of bytes is cut into, the last one filled up with zero bits. -/
def cut : Bytes → List Nat
  | [] => []
  | [a] => [a.toNat / 4, a.toNat % 4 * 16]
  | [a, b] => [a.toNat / 4, a.toNat % 4 * 16 + b.toNat / 16, b.toNat % 16 * 4]
  | a :: b :: c :: rest =>
    (a.toNat / 4) :: (a.toNat % 4 * 16 + b.toNat / 16) :: (b.toNat % 16 * 4 + c.toNat / 64) ::
      (c.toNat % 64) :: cut rest

/-- The bytes that values are joined to; bits left over at the end are dropped. -/
def join : List Nat → Bytes
  | a :: b :: c :: d :: rest =>
    UInt8.ofNat (a * 4 + b / 16) :: UInt8.ofNat (b % 16 * 16 + c / 4) ::
      UInt8.ofNat (c % 4 * 64 + d) :: join rest
  | [a, b, c] => [UInt8.ofNat (a * 4 + b / 16), UInt8.ofNat (b % 16 * 16 + c / 4)]
  | [a, b] => [UInt8.ofNat (a * 4 + b / 16)]
  | _ => []

/-- The text of a string of bytes, its last group filled up. -/
def encode (alphabet : Alphabet) (bytes : Bytes) : Bytes :=
  let symbols := (cut bytes).map (symbol alphabet)
  symbols ++ List.replicate ((4 - symbols.length % 4) % 4) pad

/-- Whether the bits of the last of `n` values that no byte takes up are all zero. -/
def endsClean (n : Nat) (last : Nat) : Bool :=
  match n % 4 with
  | 2 => last % 16 = 0
  | 3 => last % 4 = 0
  | _ => true

/-- Splits a text into the values of its symbols and the length of its padding. A text that is
not symbols followed by padding of a last group is refused at the first byte that is no
symbol. -/
def split (alphabet : Alphabet) (text : Bytes) : Except Error (List Nat × Nat) :=
  let body := text.takeWhile fun b => (value? alphabet b).isSome
  let values := body.filterMap (value? alphabet)
  match text.drop body.length with
  | [] => .ok (values, 0)
  | byte :: rest =>
    let padding := rest.length + 1
    if (byte :: rest).all (· == pad) ∧ 2 ≤ body.length % 4 ∧ body.length % 4 + padding ≤ 4 then
      .ok (values, padding)
    else .error (.invalidByte body.length byte)

/-- The bytes a text stands for. A length that leaves a single symbol over is judged first. -/
def decode (alphabet : Alphabet) (padding : Padding) (text : Bytes) : Except Error Bytes :=
  if text.length % 4 = 1 then
    let last := text.getLastD 0
    if last ≠ pad ∧ value? alphabet last = none then
      .error (.invalidByte (text.length - 1) last)
    else .error .invalidLength
  else do
    let (values, padded) ← split alphabet text
    if padding = .required ∧ (values.length + padded) % 4 ≠ 0 then throw .invalidPadding
    if endsClean values.length (values.getLastD 0) then return join values
    throw (.invalidLastSymbol (values.length - 1) (text.getD (values.length - 1) 0))

end Chaumian.Base64
