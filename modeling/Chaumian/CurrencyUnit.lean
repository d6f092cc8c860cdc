import Chaumian.Json.Codec

/-!
The units that amounts are counted in.
-/

namespace Chaumian

namespace CurrencyUnit

/-- The upper case of a character, as far as it matters for the names of known units: of what is
not ASCII, only `ſ` has one of their letters for its upper case. -/
def upperChar (c : Char) : Char := if c = 'ſ' then 'S' else c.toUpper

/-- The upper case of a name. -/
def upper (name : String) : String := String.ofList (name.toList.map upperChar)

/-- Whether a name is left for other units. -/
def isOther (name : String) : Bool :=
  !(["", "SAT", "MSAT", "USD", "EUR"].contains (upper name))

/-- A text is the name of no unit. -/
inductive Error where
  | empty
  deriving DecidableEq, Repr

/-- The wording of an error. -/
def Error.message : Error → String
  | .empty => "Unsupported unit"

end CurrencyUnit

/-- A unit. -/
inductive CurrencyUnit where
  | sat
  | msat
  | usd
  | eur
  /-- A unit by its name, which is none of the others' in either case. -/
  | other (name : String) (isOther : CurrencyUnit.isOther name = true)
  deriving DecidableEq

namespace CurrencyUnit

/-- The name of a unit. -/
def toText : CurrencyUnit → String
  | sat => "sat"
  | msat => "msat"
  | usd => "usd"
  | eur => "eur"
  | other name _ => name

/-- The unit of a name, in either case. -/
def ofText (name : String) : Except Error CurrencyUnit :=
  if h : isOther name = true then .ok (other name h)
  else
    match upper name with
    | "SAT" => .ok sat
    | "MSAT" => .ok msat
    | "USD" => .ok usd
    | "EUR" => .ok eur
    | _ => .error .empty

/-- Units in JSON are their names. -/
def codec : Json.Codec CurrencyUnit :=
  Json.Codec.string.refine (fun s => (ofText s).mapError Error.message) toText

end CurrencyUnit

end Chaumian
