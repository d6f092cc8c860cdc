import Chaumian.Json.Basic
import Chaumian.Text.Quoted

/-!
The wording of the reasons for which a text is refused.
-/

namespace Chaumian.Json

/-- A number in a message. -/
def Number.describe (n : Number) : String :=
  match n with
  | .binary .. => s!"floating point `{n.render}`"
  | _ => s!"integer `{n.render}`"

/-- What was found, in a message. -/
def Found.describe : Found → String
  | .null => "null"
  | .bool b => s!"boolean `{b}`"
  | .number n => n.describe
  | .string s => "string " ++ Text.quote s
  | .sequence => "sequence"
  | .map => "map"

/-- The names to choose from, in a message. -/
def describeNames : List String → String
  | [] => "there are no variants"
  | [a] => s!"expected `{a}`"
  | [a, b] => s!"expected `{a}` or `{b}`"
  | names => "expected one of " ++ ", ".intercalate (names.map fun n => s!"`{n}`")

/-- The wording of a fault; a malformed text is told only to be so. -/
def Fault.message : Fault → String
  | .malformed => "malformed text"
  | .wrongType found expected => s!"invalid type: {found.describe}, expected {expected}"
  | .outOfRange number expected => s!"invalid value: {number.describe}, expected {expected}"
  | .wrongLength length expected => s!"invalid length {length}, expected {expected}"
  | .missingField name => s!"missing field `{name}`"
  | .duplicateField name => s!"duplicate field `{name}`"
  | .unknownVariant name names => s!"unknown variant `{name}`, {describeNames names}"
  | .refused message => message

end Chaumian.Json
