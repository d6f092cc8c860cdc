import Chaumian.Json.Lexer

/-!
What holds a JSON text together: the items of an array, the members of an object, and values that
are passed over.

A reader of one part takes the characters that remain and answers with what it read and the
characters after it. The loops take a number of steps, for which the number of characters that
remain is always enough, as every part has at least one.
-/

namespace Chaumian.Json

/-- A reader of one part of a text. -/
abbrev Reader (α : Type) := List Char → Except Fault (α × List Char)

/-- The text behind a literal, with a value. -/
def literal (text : String) (value : α) : Reader α := fun cs => do
  return (value, ← readLiteral text.toList cs)

/-- A number read from its sign or first digit. -/
def readSigned : Reader Number
  | '-' :: cs => readNumber true cs
  | cs => readNumber false cs

/-- Where an array or object goes on. -/
inductive Next where
  /-- Behind its end. -/
  | done (rest : List Char)
  /-- At its next part. -/
  | part (cs : List Char)

/-- Where an array goes on: at its next item, or behind its closing bracket. -/
def nextItem (first : Bool) (cs : List Char) : Except Fault Next :=
  match skipBlank cs with
  | ']' :: rest => .ok (.done rest)
  | cs =>
    if first then .ok (.part cs)
    else
      match cs with
      | ',' :: rest =>
        match skipBlank rest with
        | ']' :: _ => .error .malformed
        | cs => .ok (.part cs)
      | _ => .error .malformed

/-- The items of an array up to its closing bracket. -/
def readItems (item : Reader α) : (steps : Nat) → (first : Bool) → Reader (List α)
  | 0, _, _ => .error .malformed
  | steps + 1, first, cs => do
    match ← nextItem first cs with
    | .done rest => return ([], rest)
    | .part cs =>
      let (x, rest) ← item cs
      let (xs, rest) ← readItems item steps false rest
      return (x :: xs, rest)

/-- Where an object goes on: behind the opening quote of its next name, or behind its closing
brace. -/
def nextName (first : Bool) (cs : List Char) : Except Fault Next :=
  match skipBlank cs with
  | '\x7d' :: rest => .ok (.done rest)
  | '"' :: name => if first then .ok (.part name) else .error .malformed
  | ',' :: rest =>
    if first then .error .malformed
    else
      match skipBlank rest with
      | '"' :: name => .ok (.part name)
      | _ => .error .malformed
  | _ => .error .malformed

/-- The text behind a colon. -/
def readColon (cs : List Char) : Except Fault (List Char) :=
  match skipBlank cs with
  | ':' :: rest => .ok rest
  | _ => .error .malformed

/-- A state after all members of an object: `member` reads a member from behind the opening quote
of its name. -/
def readMembers (member : σ → Reader σ) : (steps : Nat) → (first : Bool) → σ → Reader σ
  | 0, _, _, _ => .error .malformed
  | steps + 1, first, s, cs => do
    match ← nextName first cs with
    | .done rest => return (s, rest)
    | .part cs =>
      let (s, rest) ← member s cs
      readMembers member steps false s rest

/-- A bracket or brace that is still to be closed. -/
inductive Open where
  | array
  | object
  deriving DecidableEq, Repr

/-- The digits of a number that is passed over, from its first one. -/
def skipNumber (cs : List Char) : Except Fault (List Char) := do
  let whole := cs.takeWhile Char.isDigit
  if whole = [] ∨ (whole.head? = some '0' ∧ whole.length > 1) then throw .malformed
  let (_, cs) ← readFraction? 0 (cs.drop whole.length)
  let (_, cs) ← readExponent? cs
  return cs

/-- The text behind a literal, number or string that is passed over. -/
def skipScalar : List Char → Except Fault (List Char)
  | 'n' :: cs => readLiteral "ull".toList cs
  | 't' :: cs => readLiteral "rue".toList cs
  | 'f' :: cs => readLiteral "alse".toList cs
  | '-' :: cs => skipNumber cs
  | '"' :: cs => skipString cs
  | cs => skipNumber cs

/-- The text behind a name and its colon. -/
def skipName (cs : List Char) : Except Fault (List Char) := do
  readColon (← skipString cs)

/-- Where the text goes on behind a value that was passed over: `done` when nothing is open around
it any more, else at the next value, with what is open around that. -/
def skipAfter : (steps : Nat) → List Open → List Char → Except Fault (List Open × Next)
  | 0, _, _ => .error .malformed
  | _ + 1, [], cs => .ok ([], .done cs)
  | steps + 1, .array :: opened, cs => do
    match ← nextItem false cs with
    | .done rest => skipAfter steps opened rest
    | .part cs => return (.array :: opened, .part cs)
  | steps + 1, .object :: opened, cs => do
    match ← nextName false cs with
    | .done rest => skipAfter steps opened rest
    | .part cs => return (.object :: opened, .part (← skipName cs))

/-- The beginning of a value that is passed over: behind all of it, or, where it is an array or
object that holds something, at the first value in it. -/
def skipBegin (opened : List Open) (cs : List Char) : Except Fault (List Open × Next) :=
  match skipBlank cs with
  | '[' :: rest => do
    match ← nextItem true rest with
    | .done rest => return (opened, .done rest)
    | .part cs => return (.array :: opened, .part cs)
  | '\x7b' :: rest => do
    match ← nextName true rest with
    | .done rest => return (opened, .done rest)
    | .part cs => return (.object :: opened, .part (← skipName cs))
  | cs => return (opened, .done (← skipScalar cs))

/-- The text behind a value that is passed over and behind what is open around it. -/
def skipOpen : (steps : Nat) → List Open → List Char → Except Fault (List Char)
  | 0, _, _ => .error .malformed
  | steps + 1, opened, cs => do
    match ← skipBegin opened cs with
    | (opened, .part cs) => skipOpen steps opened cs
    | (opened, .done rest) =>
      match ← skipAfter (opened.length + 1) opened rest with
      | (opened, .part cs) => skipOpen steps opened cs
      | (_, .done rest) => return rest

/-- The text behind a value that is passed over. It may be nested to any depth, and its numbers
may be of any size. -/
def skipValue (cs : List Char) : Except Fault (List Char) := skipOpen (cs.length + 1) [] cs

end Chaumian.Json
