import Chaumian.Toml.Lexer
import Chaumian.Toml.Node
import Chaumian.Toml.Word

/-!
TOML texts.

As in the smaller parts, loops take a number of steps, for which the number of characters that
remain is always enough.
-/

namespace Chaumian.Toml

/-- A state after the parts of a list up to the character that closes it. Commas separate the
parts, and one may follow the last. -/
def readParts (close : Char) (part : σ → Reader σ) : (steps : Nat) → σ → Reader σ
  | 0, _, _ => none
  | steps + 1, s, cs =>
    match skipLines false cs with
    | [] => none
    | c :: rest =>
      if c = close then some (s, rest)
      else do
        let (s, rest) ← part s (c :: rest)
        match skipLines false rest with
        | ',' :: rest => readParts close part steps s rest
        | c :: rest => if c = close then some (s, rest) else none
        | [] => none

/-- A path of keys, an equals sign and a value, put into a table. -/
def readEntry (value : Reader Node) (change : (Entries → Option Entries) → σ → Option σ) (s : σ) :
    Reader σ := fun cs => do
  let ((path, key), rest) ← readPath (cs.length + 1) cs
  let '=' :: rest := skipBlank rest | none
  let (node, rest) ← value (skipBlank rest)
  return (← change (insert path key node) s, rest)

/-- Reads a value that may hold `depth` levels of arrays and tables. -/
def readValue : (depth : Nat) → Reader Node
  | _, [] => none
  | 0, c :: cs => readSingle c cs
  | depth + 1, c :: cs =>
    if c = '[' then do
      let item (items : List Node) : Reader (List Node) := fun cs => do
        let (node, rest) ← readValue depth cs
        return (node :: items, rest)
      let (items, rest) ← readParts ']' item (cs.length + 1) [] cs
      return (.array items.reverse, rest)
    else if c = '\x7b' then do
      let entry := readEntry (readValue depth) id
      let (entries, rest) ← readParts '\x7d' entry (cs.length + 1) [] cs
      return (.inline entries, rest)
    else readSingle c cs
where
  /-- Reads a single value from its first character and the others. -/
  readSingle (c : Char) (cs : List Char) : Option (Node × List Char) :=
    if isQuote c then do
      let (s, rest) ← readString c cs
      return (.datum (.text s), rest)
    else do
      let (word, rest) := splitWord (c :: cs)
      return (.datum (← datum? word), rest)

/-- How many levels of arrays and tables a value may have. -/
def maxDepth : Nat := 80

/-- A text as far as it is read: the table it builds up, and the heading that the next line is
under. -/
structure Document where
  root : Entries
  heading : List String

/-- A heading, read from behind its opening brackets. -/
def readHeading (close : List Char) : Reader (List String × String) := fun cs => do
  let (path, rest) ← readPath (cs.length + 1) (skipBlank cs)
  let rest := skipBlank rest
  if rest.take close.length = close then some (path, rest.drop close.length) else none

/-- The document after one more line, without the end of that line. -/
def Document.readLine (d : Document) : Reader Document
  | '[' :: '[' :: cs => do
    let ((path, key), rest) ← readHeading [']', ']'] cs
    return (⟨← openElement path key d.root, path ++ [key]⟩, rest)
  | '[' :: cs => do
    let ((path, key), rest) ← readHeading [']'] cs
    return (⟨← openTable path key d.root, path ++ [key]⟩, rest)
  | cs => do
    let change (f : Entries → Option Entries) (d : Document) : Option Document := do
      return { d with root := ← under d.heading f d.root }
    readEntry (readValue maxDepth) change d cs

/-- The document after all lines. -/
def Document.readLines : (steps : Nat) → Document → List Char → Option Document
  | 0, _, _ => none
  | steps + 1, d, cs =>
    match skipLines false cs with
    | [] => some d
    | cs => do
      let (d, rest) ← d.readLine cs
      readLines steps d (← lineEnd? rest)

/-- The table that a text stands for. A byte order mark may stand before it. -/
def ofText? (text : String) : Option Entries :=
  let cs :=
    match text.toList with
    | '\ufeff' :: cs => cs
    | cs => cs
  (Document.readLines (cs.length + 1) ⟨[], []⟩ cs).map (·.root)

end Chaumian.Toml
