import Chaumian.Json.Structure

/-!
Values without a type of their own: read from a text, and written without blanks.
-/

namespace Chaumian.Json

/-- Members with one of them put in: in the order of the names, in place of an earlier one of the
same name. -/
def insertMember (name : String) (value : α) : List (String × α) → List (String × α)
  | [] => [(name, value)]
  | (n, v) :: rest =>
    if name < n then (name, value) :: (n, v) :: rest
    else if name = n then (name, value) :: rest
    else (n, v) :: insertMember name value rest

namespace Value

/-- Reads a value that may hold `depth` levels of arrays and objects. -/
def read : (depth : Nat) → Reader Value
  | depth, cs =>
    match skipBlank cs with
    | 'n' :: cs => literal "ull" .null cs
    | 't' :: cs => literal "rue" (.bool true) cs
    | 'f' :: cs => literal "alse" (.bool false) cs
    | '"' :: cs => do
      let (s, rest) ← readString cs
      return (.string (String.ofList s), rest)
    | '[' :: cs =>
      match depth with
      | 0 => .error .malformed
      | depth + 1 => do
        let (items, rest) ← readItems (read depth) (cs.length + 1) true cs
        return (.array items, rest)
    | '\x7b' :: cs =>
      match depth with
      | 0 => .error .malformed
      | depth + 1 => do
        let member (members : List (String × Value)) : Reader (List (String × Value)) :=
          fun cs => do
            let (name, rest) ← readString cs
            let (v, rest) ← read depth (← readColon rest)
            return (insertMember (String.ofList name) v members, rest)
        let (members, rest) ← readMembers member (cs.length + 1) true [] cs
        return (.object members, rest)
    | cs => do
      let (n, rest) ← readSigned cs
      return (.number n, rest)

mutual

/-- The text of a value. -/
def write : Value → List Char
  | .null => "null".toList
  | .bool b => (if b then "true" else "false").toList
  | .number n => n.render.toList
  | .string s => writeString s.toList
  | .array items => '[' :: writeItems items ++ [']']
  | .object members => '\x7b' :: writeMembers members ++ ['\x7d']

/-- The texts of values with commas between them. -/
def writeItems : List Value → List Char
  | [] => []
  | [v] => v.write
  | v :: w :: rest => v.write ++ ',' :: writeItems (w :: rest)

/-- The texts of members with commas between them. -/
def writeMembers : List (String × Value) → List Char
  | [] => []
  | [(name, v)] => writeString name.toList ++ ':' :: v.write
  | (name, v) :: m :: rest =>
    writeString name.toList ++ ':' :: v.write ++ ',' :: writeMembers (m :: rest)

end

end Value

/-- How many levels of arrays and objects a text may have. -/
def maxDepth : Nat := 127

/-- The value that a reader makes of a whole text, blanks around it aside. -/
def readWhole (read : (depth : Nat) → Reader α) (text : String) : Except Fault α := do
  let (x, rest) ← read maxDepth text.toList
  if skipBlank rest = [] then return x else throw .malformed

/-- The value a text stands for. -/
def Value.ofText (text : String) : Except Fault Value := readWhole Value.read text

/-- The text of a value. -/
def Value.toText (v : Value) : String := String.ofList v.write

end Chaumian.Json
