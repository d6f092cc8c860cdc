import Chaumian.Json.Value

/-!
Codecs: how values of a type are read from JSON and written to it.

A text is read once from left to right, so that of two things wrong with it the first one is
reported. What is written has no blanks.
-/

namespace Chaumian.Json

/-- How values of a type are read and written. -/
structure Codec (α : Type) where
  /-- Reads a value that may hold so many levels of arrays and objects. -/
  read : (depth : Nat) → Reader α
  /-- The text of a value. -/
  write : α → List Char

/-- Refuses a value of another type than the one expected. -/
def mismatch (expected : String) (cs : List Char) : Except Fault α :=
  match skipBlank cs with
  | 'n' :: cs => do
    let _ ← readLiteral "ull".toList cs
    throw (.wrongType .null expected)
  | 't' :: cs => do
    let _ ← readLiteral "rue".toList cs
    throw (.wrongType (.bool true) expected)
  | 'f' :: cs => do
    let _ ← readLiteral "alse".toList cs
    throw (.wrongType (.bool false) expected)
  | '"' :: cs => do
    let (s, _) ← readString cs
    throw (.wrongType (.string (String.ofList s)) expected)
  | '[' :: _ => throw (.wrongType .sequence expected)
  | '\x7b' :: _ => throw (.wrongType .map expected)
  | cs => do
    let (n, _) ← readSigned cs
    throw (.wrongType (.number n) expected)

/-- The number of a width of `bits` that a number is, if it is one. -/
def Number.toFin (bits : Nat) (expected : String) : Number → Except Fault (Fin (Nat.pow 2 bits))
  | .natural n =>
    if h : n < Nat.pow 2 bits then .ok ⟨n, h⟩ else .error (.outOfRange (.natural n) expected)
  | .negative n => .error (.outOfRange (.negative n) expected)
  | .binary minus x => .error (.wrongType (.number (.binary minus x)) expected)

/-- Reads a number of a width of `bits`. -/
def readFin (bits : Nat) (expected : String) (cs : List Char) :
    Except Fault (Fin (Nat.pow 2 bits) × List Char) :=
  match skipBlank cs with
  | c :: cs =>
    if c = '-' ∨ c.isDigit then do
      let (n, rest) ← readSigned (c :: cs)
      return (← n.toFin bits expected, rest)
    else mismatch expected (c :: cs)
  | [] => .error .malformed

/-- Texts with commas between them. -/
def joinCommas : List (List Char) → List Char
  | [] => []
  | [a] => a
  | a :: b :: rest => a ++ ',' :: joinCommas (b :: rest)

namespace Codec

/-- The text of a value. -/
def toText (codec : Codec α) (x : α) : String := String.ofList (codec.write x)

/-- The value a text stands for. -/
def ofText (codec : Codec α) (text : String) : Except Fault α := readWhole codec.read text

/-- A codec for another form of the same values. -/
def map (f : α → β) (g : β → α) (codec : Codec α) : Codec β where
  read depth cs := do
    let (x, rest) ← codec.read depth cs
    return (f x, rest)
  write y := codec.write (g y)

/-- A codec for the values of a type that a test lets pass; the others are refused with a
message. -/
def refine (f : α → Except String β) (g : β → α) (codec : Codec α) : Codec β where
  read depth cs := do
    let (x, rest) ← codec.read depth cs
    match f x with
    | .ok y => return (y, rest)
    | .error message => throw (.refused message)
  write y := codec.write (g y)

/-- Strings, `expected` being what to call them where something else is found. -/
def stringAs (expected : String) : Codec String where
  read _ cs :=
    match skipBlank cs with
    | '"' :: cs => do
      let (s, rest) ← readString cs
      return (String.ofList s, rest)
    | cs => mismatch expected cs
  write s := writeString s.toList

/-- Strings. -/
def string : Codec String := stringAs "a string"

/-- Whole numbers of a width of `bits`. -/
def unsigned (bits : Nat) : Codec (Fin (Nat.pow 2 bits)) where
  read _ := readFin bits s!"u{bits}"
  write n := (toString n.val).toList

/-- Truth values. -/
def bool : Codec Bool where
  read _ cs :=
    match skipBlank cs with
    | 't' :: cs => literal "rue" true cs
    | 'f' :: cs => literal "alse" false cs
    | cs => mismatch "a boolean" cs
  write b := (if b then "true" else "false").toList

/-- Values that may be absent, in which case `null` is written. -/
def option (codec : Codec α) : Codec (Option α) where
  read depth cs :=
    match skipBlank cs with
    | 'n' :: cs => literal "ull" none cs
    | cs => do
      let (x, rest) ← codec.read depth cs
      return (some x, rest)
  write
    | none => "null".toList
    | some x => codec.write x

/-- Lists, written as arrays. -/
def list (codec : Codec α) : Codec (List α) where
  read depth cs :=
    match skipBlank cs with
    | '[' :: cs =>
      match depth with
      | 0 => .error .malformed
      | depth + 1 => readItems (codec.read depth) (cs.length + 1) true cs
    | cs => mismatch "a sequence" cs
  write xs := '[' :: joinCommas (xs.map codec.write) ++ [']']

/-- The number between the quotes of a name, read from behind the opening one. -/
def readNumericName (bits : Nat) : Reader (Fin (Nat.pow 2 bits))
  | c :: cs =>
    if c = '-' ∨ c.isDigit then do
      match ← readFin bits s!"u{bits}" (c :: cs) with
      | (n, '"' :: rest) => return (n, rest)
      | _ => throw .malformed
    else .error .malformed
  | [] => .error .malformed

/-- Entries with numbers for names, in the order of the text, written as the members of an
object. -/
def entries (bits : Nat) (codec : Codec α) : Codec (List (Fin (Nat.pow 2 bits) × α)) where
  read depth cs :=
    match skipBlank cs with
    | '\x7b' :: cs =>
      match depth with
      | 0 => .error .malformed
      | depth + 1 => do
        let member (found : List (Fin (Nat.pow 2 bits) × α)) :
            Reader (List (Fin (Nat.pow 2 bits) × α)) := fun cs => do
          let (n, rest) ← readNumericName bits cs
          let (x, rest) ← codec.read depth (← readColon rest)
          return ((n, x) :: found, rest)
        let (found, rest) ← readMembers member (cs.length + 1) true [] cs
        return (found.reverse, rest)
    | cs => mismatch "a map" cs
  write found :=
    '\x7b' :: joinCommas (found.map fun (n, x) =>
      writeString (toString n.val).toList ++ ':' :: codec.write x) ++ ['\x7d']

/-- The value of a name among the values there are. -/
def readVariant (values : List α) (name : α → String) : Reader α := fun cs => do
  match skipBlank cs with
  | '"' :: cs =>
    let (s, rest) ← readString cs
    match values.find? (name · = String.ofList s) with
    | some x => return (x, rest)
    | none => throw (.unknownVariant (String.ofList s) (values.map name))
  | cs => mismatch "variant identifier" cs

/-- The text behind a `null`, which is all that may follow the name of a value. -/
def readNull (cs : List Char) : Except Fault (List Char) :=
  match skipBlank cs with
  | 'n' :: cs => readLiteral "ull".toList cs
  | cs => mismatch "unit" cs

/-- The values of a small type, each with a name: written as its name, and read from that or from
an object whose only member has that name and is `null`. -/
def variants (values : List α) (name : α → String) : Codec α where
  read depth cs :=
    match skipBlank cs with
    | '\x7b' :: cs =>
      if depth = 0 then .error .malformed
      else do
        let (x, rest) ← readVariant values name cs
        match skipBlank (← readNull (← readColon rest)) with
        | '\x7d' :: rest => return (x, rest)
        | _ => throw .malformed
    | '"' :: cs => readVariant values name ('"' :: cs)
    | _ => .error .malformed
  write x := writeString (name x).toList

end Codec

end Chaumian.Json
