import Chaumian.Number.Digits

/-!
The smallest parts of a TOML text: blanks, comments, line ends, strings and keys. Each reader takes
the characters that remain and answers with what it read and the characters after it, or with
nothing where the text is not one of TOML.
-/

namespace Chaumian.Toml

/-- A reader of one part of a text. -/
abbrev Reader (α : Type) := List Char → Option (α × List Char)

/-- Whether a character may stand between the parts of a line. -/
def isBlank (c : Char) : Bool := c = ' ' ∨ c = '\t'

/-- Whether a character may stand in a comment or in a string. Control characters may not, but for
the tabulator. -/
def isPlain (c : Char) : Bool := c = '\t' ∨ (' ' ≤ c ∧ c ≠ '\x7f')

/-- The text from its first character that is not blank. -/
def skipBlank (cs : List Char) : List Char := cs.dropWhile isBlank

/-- The text behind a line end. -/
def lineFeed? : List Char → Option (List Char)
  | '\n' :: rest => some rest
  | '\r' :: '\n' :: rest => some rest
  | _ => none

/-- The text behind blanks, line ends and comments. -/
def skipLines : (inComment : Bool) → List Char → List Char
  | _, '\n' :: rest => skipLines false rest
  | _, '\r' :: '\n' :: rest => skipLines false rest
  | true, c :: rest => if isPlain c then skipLines true rest else c :: rest
  | false, '#' :: rest => skipLines true rest
  | false, c :: rest => if isBlank c then skipLines false rest else c :: rest
  | _, [] => []

/-- The text behind what may follow at the end of a line: blanks, a comment, and the line end,
which the last line needs none of. -/
def lineEnd? (cs : List Char) : Option (List Char) :=
  let rest :=
    match skipBlank cs with
    | '#' :: rest => rest.dropWhile isPlain
    | rest => rest
  if rest = [] then some [] else lineFeed? rest

/-- The text behind blanks and line ends. -/
def skipSpace : List Char → List Char
  | '\n' :: rest => skipSpace rest
  | '\r' :: '\n' :: rest => skipSpace rest
  | c :: rest => if isBlank c then skipSpace rest else c :: rest
  | [] => []

/-- The character of an escape of a single letter. -/
def shortEscape? : Char → Option Char
  | '"' => some '"'
  | '\\' => some '\\'
  | 'b' => some '\x08'
  | 'e' => some '\x1b'
  | 'f' => some '\x0c'
  | 'n' => some '\n'
  | 'r' => some '\r'
  | 't' => some '\t'
  | _ => none

/-- The character whose number hexadecimal digits spell. -/
def numbered? (digits : List Char) : Option (List Char) := do
  let n ← Digits.toNat? 16 digits
  if n.isValidChar then some [Char.ofNat n] else none

/-- What an escape stands for, read from behind its backslash. In a string of many lines a line end
may be escaped, and then stands for nothing together with all blanks and line ends around it. -/
def readEscape (multiline : Bool) : Reader (List Char)
  | 'x' :: a :: b :: rest => do return (← numbered? [a, b], rest)
  | 'u' :: a :: b :: c :: d :: rest => do return (← numbered? [a, b, c, d], rest)
  | 'U' :: a :: b :: c :: d :: e :: f :: g :: h :: rest => do
    return (← numbered? [a, b, c, d, e, f, g, h], rest)
  | [] => none
  | c :: rest =>
    match shortEscape? c with
    | some e => some ([e], rest)
    | none =>
      if multiline then do
        let rest ← lineFeed? (skipBlank (c :: rest))
        return ([], skipSpace rest)
      else none

/-- The end of a string with the quotes that stand right before it: a single quote, or three of
them, which up to two others may precede. -/
def closing? (quote : Char) (multiline : Bool) (cs : List Char) : Option (List Char × List Char) :=
  let n := (cs.takeWhile (· = quote)).length
  if multiline then
    if 3 ≤ n then some (List.replicate (min n 5 - 3) quote, cs.drop (min n 5)) else none
  else if 1 ≤ n then some ([], cs.drop 1)
  else none

/-- The next part of a string. Only between `"` are there escapes. -/
def readPart (quote : Char) (multiline : Bool) : Reader (List Char)
  | [] => none
  | c :: rest =>
    if c = '\\' ∧ quote = '"' then readEscape multiline rest
    else if isPlain c then some ([c], rest)
    else if multiline then do return (['\n'], ← lineFeed? (c :: rest))
    else none

/-- The rest of a string up to its closing quotes. -/
def readQuoted (quote : Char) (multiline : Bool) : (steps : Nat) → Reader (List Char)
  | 0, _ => none
  | steps + 1, cs =>
    match closing? quote multiline cs with
    | some closed => some closed
    | none => do
      let (part, rest) ← readPart quote multiline cs
      let (parts, rest) ← readQuoted quote multiline steps rest
      return (part ++ parts, rest)

/-- A string on one line, read from behind its opening quote. -/
def readLineString (quote : Char) (cs : List Char) : Option (String × List Char) := do
  let (text, rest) ← readQuoted quote false (cs.length + 1) cs
  return (String.ofList text, rest)

/-- A string, read from behind its opening quote. Three quotes open a string of many lines, and a
line end right behind them is no part of it. -/
def readString (quote : Char) (cs : List Char) : Option (String × List Char) :=
  if cs.take 2 = [quote, quote] then do
    let cs := (lineFeed? (cs.drop 2)).getD (cs.drop 2)
    let (text, rest) ← readQuoted quote true (cs.length + 1) cs
    return (String.ofList text, rest)
  else readLineString quote cs

/-- Whether a character opens a string. -/
def isQuote (c : Char) : Bool := c = '"' ∨ c = '\x27'

/-- Whether a character may stand in a key without quotes. -/
def isBare (c : Char) : Bool := c.isAlphanum ∨ c = '_' ∨ c = '-'

/-- A key, with or without quotes. -/
def readKey : Reader String
  | [] => none
  | c :: rest =>
    if isQuote c then readLineString c rest
    else if isBare c then
      some (String.ofList (c :: rest.takeWhile isBare), rest.dropWhile isBare)
    else none

/-- Keys with points between them, the last one apart. -/
def readPath : (steps : Nat) → Reader (List String × String)
  | 0, _ => none
  | steps + 1, cs => do
    let (key, rest) ← readKey cs
    match skipBlank rest with
    | '.' :: rest =>
      let ((path, last), rest) ← readPath steps (skipBlank rest)
      return ((key :: path, last), rest)
    | rest => return (([], key), rest)

end Chaumian.Toml
