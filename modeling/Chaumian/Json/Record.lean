import Chaumian.Json.Codec

/-!
Records: values with named fields, written as objects.

A record is read from an object, with its fields in any order and unknown ones passed over, or
from an array that holds its fields in their order.
-/

namespace Chaumian.Json

/-- A field of a record. -/
structure Field (α : Type) where
  name : String
  codec : Codec α
  /-- What the field is in an object without it; with nothing here the field is required. -/
  inObject? : Option α
  /-- What the field is in an array that ends before it. -/
  inArray? : Option α
  /-- Whether the field is left out when it has a value. -/
  omits : α → Bool

namespace Field

/-- A field that has to be there. -/
def required (name : String) (codec : Codec α) : Field α :=
  ⟨name, codec, none, none, fun _ => false⟩

/-- A field that is absent in an object without it, and written as `null` when absent. -/
def nullable (name : String) (codec : Codec α) : Field (Option α) :=
  ⟨name, codec.option, some none, none, fun _ => false⟩

/-- A field that may be missing, and is left out when absent. -/
def omittable (name : String) (codec : Codec α) : Field (Option α) :=
  ⟨name, codec.option, some none, some none, Option.isNone⟩

/-- A field that may be missing and then has a value of its own. -/
def withDefault (name : String) (codec : Codec α) (value : α) : Field α :=
  ⟨name, codec, some value, some value, fun _ => false⟩

/-- A list that may be missing, and is left out when empty. -/
def omittableList (name : String) (codec : Codec α) : Field (List α) :=
  ⟨name, codec.list, some [], some [], List.isEmpty⟩

end Field

/-- The fields of a record, in their order; the record is the tuple of them. -/
inductive Fields : Type → Type 1 where
  | nil : Fields Unit
  | cons {α β : Type} (field : Field α) (rest : Fields β) : Fields (α × β)

namespace Fields

/-- The number of fields. -/
def size : Fields τ → Nat
  | nil => 0
  | cons _ rest => rest.size + 1

/-- The fields found so far in an object. -/
@[reducible] def Slots : Fields τ → Type
  | nil => Unit
  | cons (α := α) _ rest => Option α × rest.Slots

/-- No field found. -/
def empty : (fields : Fields τ) → fields.Slots
  | nil => ()
  | cons _ rest => (none, rest.empty)

/-- The slots with the value of the field of a name put in, read from behind that name. A field
may be found only once, and a name that is no field's is passed over with its value. -/
def readMember (depth : Nat) (name : String) : (fields : Fields τ) → fields.Slots →
    Reader fields.Slots
  | nil, slots, cs => do return (slots, ← skipValue (← readColon cs))
  | cons field rest, slots, cs =>
    let (slot, slots) := slots
    if field.name = name then
      if slot.isSome then .error (.duplicateField name)
      else do
        let (x, cs) ← field.codec.read depth (← readColon cs)
        return ((some x, slots), cs)
    else do
      let (slots, cs) ← rest.readMember depth name slots cs
      return ((slot, slots), cs)

/-- The record that was found in an object. -/
def finish : (fields : Fields τ) → fields.Slots → Except Fault τ
  | nil, _ => .ok ()
  | cons field rest, slots =>
    let (slot, slots) := slots
    match slot.or field.inObject? with
    | some x => do return (x, ← rest.finish slots)
    | none => .error (.missingField field.name)

/-- The record in the items of an array, `index` of them having been read; nothing may follow
them. -/
def readArray (depth : Nat) (expected : String) : (fields : Fields τ) → (index : Nat) →
    Reader τ
  | nil, index, cs => do
    match ← nextItem (index = 0) cs with
    | .done rest => return ((), rest)
    | .part _ => throw .malformed
  | cons field rest, index, cs => do
    match ← nextItem (index = 0) cs with
    | .part item =>
      let (x, cs) ← field.codec.read depth item
      let (xs, cs) ← rest.readArray depth expected (index + 1) cs
      return ((x, xs), cs)
    | .done _ =>
      match field.inArray? with
      | none => throw (.wrongLength index expected)
      | some x =>
        let (xs, cs) ← rest.readArray depth expected (index + 1) cs
        return ((x, xs), cs)

/-- The members written for a record. -/
def members : (fields : Fields τ) → τ → List (List Char)
  | nil, _ => []
  | cons field rest, (x, xs) =>
    let others := rest.members xs
    if field.omits x then others
    else (writeString field.name.toList ++ ':' :: field.codec.write x) :: others

end Fields

/-- A number of elements in words. -/
def countElements (n : Nat) : String := if n = 1 then "1 element" else s!"{n} elements"

namespace Codec

/-- The codec of a record, from the name of its type and its fields. -/
def record (name : String) (fields : Fields τ) : Codec τ where
  read depth cs :=
    match skipBlank cs with
    | '\x7b' :: cs =>
      match depth with
      | 0 => .error .malformed
      | depth + 1 => do
        let member (slots : fields.Slots) : Reader fields.Slots := fun cs => do
          let (name, rest) ← readString cs
          fields.readMember depth (String.ofList name) slots rest
        let (slots, rest) ← readMembers member (cs.length + 1) true fields.empty cs
        return (← fields.finish slots, rest)
    | '[' :: cs =>
      match depth with
      | 0 => .error .malformed
      | depth + 1 =>
        fields.readArray depth s!"struct {name} with {countElements fields.size}" 0 cs
    | cs => mismatch s!"struct {name}" cs
  write x := '\x7b' :: joinCommas (fields.members x) ++ ['\x7d']

end Codec

end Chaumian.Json
