import Chaumian.Json.Codec
import Chaumian.Text.LowerCase
import Chaumian.Url.Basic

/-!
The URLs of mints in normal form: the scheme and the host in lower case, and no slashes at the end.
-/

namespace Chaumian

namespace MintUrl

/-- What keeps a text from being the URL of a mint. -/
inductive Error where
  | url (cause : Url.Error)
  /-- No scheme and host with `://` between them. -/
  | shape
  deriving DecidableEq, Repr

/-- The wording of an error. -/
def Error.message : Error → String
  | .url cause => cause.message
  | .shape => "Invalid URL"

/-- What stands before and after the first `://`. -/
def splitScheme? : List Char → Option (List Char × List Char)
  | ':' :: '/' :: '/' :: rest => some ([], rest)
  | c :: rest => (splitScheme? rest).map fun (scheme, host) => (c :: scheme, host)
  | [] => none

/-- A text without the slashes at its end. -/
def dropSlashes (cs : List Char) : List Char := (cs.reverse.dropWhile (· = '/')).reverse

/-- The normal form of a text, before it is checked to be a URL. -/
def normalForm? (cs : List Char) : Option (List Char) := do
  let (scheme, rest) ← splitScheme? (dropSlashes cs)
  let host := rest.takeWhile (· ≠ '/')
  let path := rest.drop (host.length + 1)
  if host = [] then none
  else
    some <| Text.toLower scheme ++ ':' :: '/' :: '/' :: Text.toLower host ++
      if path = [] then [] else '/' :: path

/-- The normal form of a URL. -/
def normalize (cs : List Char) : Except Error (List Char) :=
  match normalForm? cs with
  | none => .error .shape
  | some normal => do
    (Url.check normal).mapError .url
    return normal

theorem normalize_of_toOption {cs normal : List Char}
    (h : (normalize cs).toOption = some normal) : normalize cs = .ok normal := by
  cases hn : normalize cs with
  | ok n => simpa [hn, Except.toOption] using h
  | error e => simp [hn, Except.toOption] at h

end MintUrl

/-- The URL of a mint. -/
structure MintUrl where
  text : String
  /-- It is the normal form of some URL. -/
  normal : ∃ cs, MintUrl.normalize cs = .ok text.toList

namespace MintUrl

instance : DecidableEq MintUrl := fun a b =>
  decidable_of_iff (a.text = b.text)
    ⟨fun h => by cases a; cases b; cases h; rfl, fun h => by rw [h]⟩

/-- The URL of a mint that a text stands for. -/
def ofText (text : String) : Except Error MintUrl :=
  match h : normalize text.toList with
  | .ok normal => .ok ⟨String.ofList normal, text.toList, by simpa using h⟩
  | .error e => .error e

/-- URLs of mints in JSON are strings. -/
def codec : Json.Codec MintUrl :=
  Json.Codec.string.refine (fun s => (ofText s).mapError Error.message) MintUrl.text

end MintUrl

end Chaumian
