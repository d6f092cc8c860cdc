import Chaumian.Datum

/-!
The TOML values that are a word: flags, numbers, and dates and times, which are values in the form
of a text.
-/

namespace Chaumian.Toml

/-! ## Numbers -/

/-- Digits without the single underscores that stand between them. -/
def digits? (base : Nat) (cs : List Char) : Option (List Char) :=
  let groups := cs.splitOn '_'
  if groups.all fun g => g ≠ [] && g.all fun c => (Digits.value? base c).isSome then
    some groups.flatten
  else none

/-- The digits of a whole number, without leading zeros. -/
def wholeDigits? (cs : List Char) : Option (List Char) :=
  (digits? 10 cs).filter fun ds => ds.length = 1 ∨ ds.head? ≠ some '0'

/-- The whole number a word spells. -/
def whole? (word : List Char) : Option Int := do
  let n ←
    match word with
    | '0' :: 'x' :: rest => (digits? 16 rest).bind (Digits.toNat? 16) |>.map Int.ofNat
    | '0' :: 'o' :: rest => (digits? 8 rest).bind (Digits.toNat? 8) |>.map Int.ofNat
    | '0' :: 'b' :: rest => (digits? 2 rest).bind (Digits.toNat? 2) |>.map Int.ofNat
    | _ =>
      let (minus, rest) := Digits.splitSign word
      (wholeDigits? rest).bind (Digits.toNat? 10) |>.map (Digits.withSign minus)
  if (Int64.ofInt n).toInt = n then some n else none

/-- The digits behind a point, if there is one, and what follows them. -/
def fraction? : List Char → Option (List Char × List Char)
  | '.' :: rest => do
    let isPart (c : Char) : Bool := c.isDigit ∨ c = '_'
    return (← digits? 10 (rest.takeWhile isPart), rest.dropWhile isPart)
  | rest => some ([], rest)

/-- The power of ten that a text behind the digits of a number stands for. -/
def power? : List Char → Option Int
  | [] => some 0
  | c :: rest => do
    let (minus, rest) := Digits.splitSign rest
    let n ← (digits? 10 rest).bind (Digits.toNat? 10)
    if c = 'e' ∨ c = 'E' then some (Digits.withSign minus n) else none

/-- The number of double precision that a word spells. Only by its name is it infinite. -/
def double? (word : List Char) : Option Double :=
  let (minus, cs) := Digits.splitSign word
  if cs = "inf".toList then some (.infinite minus)
  else if cs = "nan".toList then some .nan
  else do
    let isPart (c : Char) : Bool := c.isDigit ∨ c = '_'
    let whole ← wholeDigits? (cs.takeWhile isPart)
    let (fraction, rest) ← fraction? (cs.dropWhile isPart)
    match Double.ofDecimal minus (whole ++ fraction) ((← power? rest) - fraction.length) with
    | .infinite _ => none
    | x => some x

/-! ## Dates and times -/

/-- A number of so many digits within bounds, with its digits. -/
def numeral? (count low high : Nat) (cs : List Char) : Option (Nat × List Char × List Char) := do
  let digits := cs.take count
  if digits.length ≠ count then none
  let n ← Digits.toNat? 10 digits
  if low ≤ n ∧ n ≤ high then some (n, digits, cs.drop count) else none

/-- How many days a month has. -/
def monthLength (year month : Nat) : Nat :=
  if month = 2 then
    if year % 4 = 0 ∧ (year % 100 ≠ 0 ∨ year % 400 = 0) then 29 else 28
  else if [4, 6, 9, 11].contains month then 30
  else 31

/-- A date at the beginning of a text. -/
def date? (cs : List Char) : Option (List Char × List Char) := do
  let (year, ys, rest) ← numeral? 4 0 9999 cs
  let '-' :: rest := rest | none
  let (month, ms, rest) ← numeral? 2 1 12 rest
  let '-' :: rest := rest | none
  let (_, ds, rest) ← numeral? 2 1 (monthLength year month) rest
  return (ys ++ '-' :: ms ++ '-' :: ds, rest)

/-- Hours and minutes at the beginning of a text. -/
def clock? (cs : List Char) : Option (List Char × List Char) := do
  let (_, hs, rest) ← numeral? 2 0 23 cs
  let ':' :: rest := rest | none
  let (_, ms, rest) ← numeral? 2 0 59 rest
  return (hs ++ ':' :: ms, rest)

/-- A fraction of a second, to nine digits and without zeros at its end. -/
def secondFraction (digits : List Char) : List Char :=
  match ((digits.take 9).reverse.dropWhile (· = '0')).reverse with
  | [] => []
  | ds => '.' :: ds

/-- A time of day at the beginning of a text. Seconds may be left out. -/
def time? (cs : List Char) : Option (List Char × List Char) := do
  let (clock, rest) ← clock? cs
  match rest with
  | ':' :: rest =>
    let (_, ss, rest) ← numeral? 2 0 60 rest
    match rest with
    | '.' :: rest =>
      let digits := rest.takeWhile Char.isDigit
      if digits = [] then none
      return (clock ++ ':' :: ss ++ secondFraction digits, rest.drop digits.length)
    | rest => return (clock ++ ':' :: ss, rest)
  | rest => return (clock, rest)

/-- How far a time is from universal time. Nothing west of it is nothing east of it. -/
def offset? : List Char → Option (List Char)
  | [] => some []
  | ['Z'] => some ['Z']
  | ['z'] => some ['Z']
  | sign :: cs => do
    let (clock, []) ← clock? cs | none
    if sign ≠ '+' ∧ sign ≠ '-' then none
    return (if clock = "00:00".toList then '+' else sign) :: clock

/-- The date, time or moment that a word spells, in one spelling of several. -/
def moment? (word : List Char) : Option (List Char) :=
  match date? word with
  | none => do
    let (time, []) ← time? word | none
    return time
  | some (date, []) => some date
  | some (date, t :: rest) => do
    if t ≠ 'T' ∧ t ≠ 't' ∧ t ≠ ' ' then none
    let (time, rest) ← time? rest
    return date ++ 'T' :: time ++ (← offset? rest)

/-! ## Words -/

/-- The value of a word. -/
def datum? (word : List Char) : Option Datum :=
  if word = "true".toList then some (.flag true)
  else if word = "false".toList then some (.flag false)
  else
    match whole? word, double? word, moment? word with
    | some n, _, _ => some (.whole n)
    | none, some x, _ => some (.double x)
    | none, none, some m => some (.text (String.ofList m))
    | none, none, none => none

/-- Whether a character may stand in a word. -/
def isWordChar (c : Char) : Bool := c.isAlphanum ∨ "_+-.:".toList.contains c

/-- The word at the beginning of a text, and what follows it. A date and a time may have a blank
between them. -/
def splitWord (cs : List Char) : List Char × List Char :=
  let word := cs.takeWhile isWordChar
  match (date? word), cs.dropWhile isWordChar with
  | some (_, []), ' ' :: c :: rest =>
    if c.isDigit then
      (word ++ ' ' :: (c :: rest).takeWhile isWordChar, (c :: rest).dropWhile isWordChar)
    else (word, ' ' :: c :: rest)
  | _, rest => (word, rest)

end Chaumian.Toml
