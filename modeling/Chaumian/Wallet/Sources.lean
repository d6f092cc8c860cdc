import Chaumian.Text.Blank
import Chaumian.Toml.Document
import Chaumian.Wallet.Settings

/-!
Where the settings of a wallet come from: a file lies over the defaults, and the environment over
the file. If anything cannot be read, the defaults are all that counts.
-/

namespace Chaumian.Settings

/-- A setting. -/
inductive Field where
  | mintUrl
  | maxOrder
  | unit
  | verifyDleq
  deriving DecidableEq, Repr

namespace Field

/-- The name of a setting. -/
def name : Field → String
  | mintUrl => "mint_url"
  | maxOrder => "max_order"
  | unit => "unit"
  | verifyDleq => "verify_dleq"

/-- All settings. -/
def all : List Field := [mintUrl, maxOrder, unit, verifyDleq]

/-- The setting of a name. -/
def ofName? (name : String) : Option Field := all.find? (·.name = name)

end Field

/-! ## Names -/

/-- Whether a text is a number in brackets' place: blanks around it, a minus sign before it. -/
def isIndex (cs : List Char) : Bool :=
  let inner := ((cs.dropWhile Toml.isBlank).reverse.dropWhile Toml.isBlank).reverse
  let digits :=
    match inner with
    | '-' :: digits => digits
    | digits => digits
  (Digits.decimal? digits).isSome

/-- Whether a text leads from a value into it: by names behind points and numbers in brackets. -/
def leadsInside : (steps : Nat) → List Char → Bool
  | _, [] => true
  | steps + 1, '.' :: cs =>
    cs.takeWhile Toml.isBare ≠ [] && leadsInside steps (cs.dropWhile Toml.isBare)
  | steps + 1, '[' :: cs =>
    isIndex (cs.takeWhile (· ≠ ']')) && cs.contains ']' &&
      leadsInside steps ((cs.dropWhile (· ≠ ']')).drop 1)
  | _, _ => false

/-- What a name in a source is about. -/
inductive Target where
  | field (f : Field)
  /-- A part of a setting, as if it were more than a single value. -/
  | part (f : Field)
  | nothing
  deriving DecidableEq, Repr

/-- What a name is about. -/
def Target.ofName (name : String) : Target :=
  let cs := name.toList
  match Field.ofName? (String.ofList (cs.takeWhile Toml.isBare)), cs.dropWhile Toml.isBare with
  | none, _ => nothing
  | some f, [] => field f
  | some f, rest => if leadsInside (rest.length + 1) rest then part f else nothing

/-! ## Drafts -/

/-- What the sources so far give a setting: a single value, or more than that, which can be read
as none. -/
abbrev Draft := Field → Option Datum

/-- A draft with another value for a setting. -/
def Draft.set (draft : Draft) (f : Field) (value : Option Datum) : Draft :=
  fun g => if g = f then value else draft g

/-- The draft that settings are. -/
def toDraft (settings : Settings) : Draft
  | .mintUrl => some (.text settings.mintUrl.text)
  | .maxOrder => some (.whole settings.maxOrder.val)
  | .unit => some (.text settings.unit.toText)
  | .verifyDleq => some (.flag settings.verifyDleq)

/-- The settings that a draft stands for. -/
def ofDraft? (draft : Draft) : Option Settings := do
  let mintUrl ← (MintUrl.ofText (← draft .mintUrl).toText).toOption
  let maxOrder ← (← draft .maxOrder).toNat?
  let unit ← (CurrencyUnit.ofText (← draft .unit).toText).toOption
  let verifyDleq ← (← draft .verifyDleq).toBool?
  return ⟨mintUrl, orderOf maxOrder, unit, verifyDleq⟩

/-- A draft under what a file says of a name. A table without entries says nothing. -/
def Draft.read (draft : Draft) (name : String) (node : Toml.Node) : Draft :=
  match Target.ofName name, node with
  | .field f, .datum d => draft.set f (some d)
  | .field _, .inline [] => draft
  | .field _, .table _ [] => draft
  | .field f, _ => draft.set f none
  | .part f, _ => draft.set f none
  | .nothing, _ => draft

/-- What names of variables begin with, in either case. -/
def variablesBegin : String := "ecash_wallet_"

/-- A draft under a variable of the environment. -/
def Draft.readVariable (draft : Draft) (name value : String) : Draft :=
  match Text.after? variablesBegin.toList (Text.toLower name.toList) with
  | none => draft
  | some rest => draft.read (String.ofList rest) (.datum (.ofWord value))

/-! ## Sources -/

/-- Where a file of settings is. -/
inductive Place where
  /-- Where it was said to be, and then has to be. -/
  | named
  /-- Where it is looked for else, and may be missing. -/
  | usual
  deriving DecidableEq, Repr

/-- The sources of settings: the text of a file if there is one, and the environment. -/
structure Sources where
  place : Place
  file : Option String
  environment : List (String × String)

/-- The entries of the file. -/
def Sources.entries? (sources : Sources) : Option Toml.Entries :=
  match sources.file, sources.place with
  | some text, _ => Toml.ofText? text
  | none, .usual => some []
  | none, .named => none

/-- The settings that sources give, or the defaults where one of them cannot be read. -/
def load (sources : Sources) : Settings :=
  let settings? := do
    let entries ← sources.entries?
    let draft := entries.foldl (fun (d : Draft) (name, node) => d.read name node) default.toDraft
    ofDraft? <| sources.environment.foldl
      (fun (d : Draft) (name, value) => d.readVariable name value) draft
  settings?.getD default

end Chaumian.Settings
