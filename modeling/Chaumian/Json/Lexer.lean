import Chaumian.Json.Basic
import Chaumian.Number.Digits

/-!
The smallest parts of a JSON text: blanks, literals, strings and numbers. Each reader takes the
characters that remain and answers with what it read and the characters after it.
-/

namespace Chaumian.Json

/-- Whether a character may stand between parts. -/
def isBlank (c : Char) : Bool := c = ' ' ∨ c = '\n' ∨ c = '\t' ∨ c = '\r'

/-- The text from its first character that is not blank. -/
def skipBlank (cs : List Char) : List Char := cs.dropWhile isBlank

/-- The text after a literal, which has to stand at its beginning. -/
def readLiteral : (literal cs : List Char) → Except Fault (List Char)
  | [], cs => .ok cs
  | _ :: _, [] => .error .malformed
  | l :: literal, c :: cs => if l = c then readLiteral literal cs else .error .malformed

/-- The number that four hexadecimal digits spell. -/
def hexUnit? (a b c d : Char) : Option Nat := Digits.toNat? 16 [a, b, c, d]

/-- The character of an escape of a single letter. -/
def shortEscape? : Char → Option Char
  | '"' => some '"'
  | '\\' => some '\\'
  | '/' => some '/'
  | 'b' => some '\x08'
  | 'f' => some '\x0c'
  | 'n' => some '\n'
  | 'r' => some '\r'
  | 't' => some '\t'
  | _ => none

/-- The character beyond 16 bits that a leading and a trailing unit stand for. -/
def joinUnits? (lead trail : Nat) : Option Char :=
  if lead < 0xdc00 ∧ 0xdc00 ≤ trail ∧ trail ≤ 0xdfff then
    some (Char.ofNat ((lead - 0xd800) * 1024 + (trail - 0xdc00) + 0x10000))
  else none

/-- Whether a unit is one of two that stand for a character together. -/
def isHalf (unit : Nat) : Bool := 0xd800 ≤ unit ∧ unit ≤ 0xdfff

/-- A character put in front of a string that was read. -/
def consChar (c : Char) (r : Except Fault (List Char × List Char)) :
    Except Fault (List Char × List Char) :=
  r.map fun (s, rest) => (c :: s, rest)

/-- The rest of a string, read from behind its opening quote: its characters, and the text behind
its closing quote. Control characters have to be escaped, and of a character beyond 16 bits
neither unit may stand alone. -/
def readString : List Char → Except Fault (List Char × List Char)
  | '"' :: rest => .ok ([], rest)
  | '\\' :: 'u' :: a :: b :: c :: d :: rest =>
    match hexUnit? a b c d with
    | none => .error .malformed
    | some unit =>
      if isHalf unit then
        match rest with
        | '\\' :: 'u' :: a :: b :: c :: d :: rest =>
          match (hexUnit? a b c d).bind (joinUnits? unit) with
          | some c => consChar c (readString rest)
          | none => .error .malformed
        | _ => .error .malformed
      else consChar (Char.ofNat unit) (readString rest)
  | '\\' :: c :: rest =>
    match shortEscape? c with
    | some e => consChar e (readString rest)
    | none => .error .malformed
  | c :: rest =>
    if c.toNat < 0x20 ∨ c = '\\' then .error .malformed else consChar c (readString rest)
  | [] => .error .malformed

/-- The text behind a string that is passed over, read from behind its opening quote. Units that
stand alone are let pass here. -/
def skipString : List Char → Except Fault (List Char)
  | '"' :: rest => .ok rest
  | '\\' :: 'u' :: a :: b :: c :: d :: rest =>
    if (hexUnit? a b c d).isSome then skipString rest else .error .malformed
  | '\\' :: c :: rest => if (shortEscape? c).isSome then skipString rest else .error .malformed
  | c :: rest => if c.toNat < 0x20 ∨ c = '\\' then .error .malformed else skipString rest
  | [] => .error .malformed

/-- The character that stands for itself or, where it must be escaped, its escape. -/
def escape (c : Char) : List Char :=
  if c = '"' then ['\\', '"']
  else if c = '\\' then ['\\', '\\']
  else if c = '\x08' then ['\\', 'b']
  else if c = '\x0c' then ['\\', 'f']
  else if c = '\n' then ['\\', 'n']
  else if c = '\r' then ['\\', 'r']
  else if c = '\t' then ['\\', 't']
  else if c.toNat < 0x20 then
    ['\\', 'u', '0', '0', if c.toNat < 16 then '0' else '1', Nat.digitChar (c.toNat % 16)]
  else [c]

/-- A string between quotes. -/
def writeString (cs : List Char) : List Char := '"' :: cs.flatMap escape ++ ['"']

/-- The value of a decimal digit. -/
def digit (c : Char) : Nat := c.toNat - 48

/-- Digits taken up while the number they spell fits 64 bits: the number, and how many digits
were left. -/
def takeDigits : (n : Nat) → List Char → Nat × Nat
  | n, [] => (n, 0)
  | n, c :: cs =>
    if n * 10 + digit c < Nat.pow 2 64 then takeDigits (n * 10 + digit c) cs else (n, cs.length + 1)

/-- A magnitude divided by a power of ten, in steps of at most `10 ^ 308`. -/
def shrink (x : Binary64) (n : Nat) : Binary64 :=
  if n ≤ 308 then x.div (.tenPower n)
  else if x.mantissa = 0 then x
  else shrink (x.div (.tenPower 308)) (n - 308)
termination_by n
decreasing_by omega

/-- The magnitude `significand * 10 ^ exponent`, the significand being rounded first and the
result again. -/
def scaled? (significand : Nat) (exponent : Int) : Except Fault Binary64 :=
  let x := (Binary64.round? significand 1).getD .zero
  if exponent < 0 then .ok (shrink x (-exponent).toNat)
  else if exponent ≤ 308 then
    match x.mul? (.tenPower exponent.toNat) with
    | some y => .ok y
    | none => .error .malformed
  else if x.mantissa = 0 then .ok x
  else .error .malformed

/-- The digits of an exponent with its sign, read from behind the `e`. -/
def readExponent (cs : List Char) : Except Fault (Int × List Char) :=
  let (minus, cs) := Digits.splitSign cs
  let digits := cs.takeWhile Char.isDigit
  match Digits.decimal? digits with
  | some n => .ok (Digits.withSign minus n, cs.drop digits.length)
  | none => .error .malformed

/-- A number without fraction and exponent that fits 64 bits. Zero with a sign is no whole
number. -/
def wholeNumber (minus : Bool) (n : Nat) : Number :=
  if !minus then .natural n
  else if n = 0 ∨ n > Nat.pow 2 63 then .binary true ((Binary64.round? n 1).getD .zero)
  else .negative n

/-- A fraction, read from its point, continuing a significand: the significand and the powers of
ten it is too large by, or nothing where no point stands. Digits beyond 64 bits are dropped. -/
def readFraction? (significand : Nat) (cs : List Char) :
    Except Fault (Option (Nat × Nat) × List Char) :=
  match cs with
  | '.' :: rest =>
    let fraction := rest.takeWhile Char.isDigit
    if fraction = [] then .error .malformed
    else
      let (n, left) := takeDigits significand fraction
      .ok (some (n, fraction.length - left), rest.drop fraction.length)
  | _ => .ok (none, cs)

/-- An exponent, read from its `e`, or nothing where none stands. -/
def readExponent? (cs : List Char) : Except Fault (Option Int × List Char) :=
  match cs with
  | c :: rest =>
    if c = 'e' ∨ c = 'E' then do
      let (e, rest) ← readExponent rest
      return (some e, rest)
    else .ok (none, cs)
  | [] => .ok (none, [])

/-- A number, read from its first digit. Of a whole part beyond 64 bits each digit dropped counts
as a power of ten. -/
def readNumber (minus : Bool) (cs : List Char) : Except Fault (Number × List Char) := do
  let whole := cs.takeWhile Char.isDigit
  if whole = [] ∨ (whole.head? = some '0' ∧ whole.length > 1) then throw .malformed
  let (significand, dropped) := takeDigits 0 whole
  let (fraction, cs) ← readFraction? significand (cs.drop whole.length)
  let (exponent, cs) ← readExponent? cs
  if dropped = 0 ∧ fraction = none ∧ exponent = none then
    return (wholeNumber minus significand, cs)
  let (significand, places) := fraction.getD (significand, 0)
  let x ← scaled? significand (exponent.getD 0 + Int.ofNat dropped - Int.ofNat places)
  return (.binary minus x, cs)

end Chaumian.Json
