import Chaumian.Text.BidiClass
import Chaumian.Text.Joining
import Chaumian.Text.Mark
import Chaumian.Url.Mapping
import Chaumian.Url.Punycode

/-!
The parts of a domain name between its dots, and what they may be made of.
-/

namespace Chaumian.Url

open Text (BidiClass bidiClass)

/-- What a part begins with that is written in Punycode. -/
def punycodeMark : List Char := "xn--".toList

/-- The characters that a part stands for. Those written in Punycode have to need it, and to be
characters that become no others. -/
def readLabel? (label : List Char) : Option (List Char) :=
  if label.take 4 = punycodeMark then do
    let name ← Punycode.decode (label.drop 4)
    if name.any (128 ≤ ·.toNat) ∧ name.all (fun c => mapChar c = some [c]) then some name else none
  else some label

/-- Whether the characters that keep letters apart or together stand where they may: behind a
virama, and the one that keeps them apart also between letters that would join. -/
def joinersFit : (before after : List Char) → Bool
  | _, [] => true
  | before, c :: after =>
    let behindVirama := before.head?.any Text.isVirama
    let betweenJoined :=
      (before.dropWhile Text.isTransparent).head?.any Text.joinsNext &&
        (after.dropWhile Text.isTransparent).head?.any Text.joinsPrevious
    let fits :=
      if c = '\u200c' then behindVirama || betweenJoined
      else if c = '\u200d' then behindVirama
      else true
    fits && joinersFit (c :: before) after

/-- Whether a part may stand in a name. -/
def isLabel (label : List Char) : Bool := !label.head?.any Text.isMark && joinersFit [] label

/-- Whether a part makes a name one that is read from right to left somewhere. -/
def isDirected (label : List Char) : Bool :=
  label.any fun c => bidiClass c = .right || bidiClass c = .arabicNumber

/-- The direction of the last character of a part that is no mark. -/
def lastClass? (directions : List BidiClass) : Option BidiClass :=
  (directions.reverse.dropWhile (· = .mark)).head?

/-- Whether the directions within a part agree, as they have to throughout a name that is read from
right to left somewhere. -/
def directionsAgree (label : List Char) : Bool :=
  let ds := label.map bidiClass
  match ds.head? with
  | none => true
  | some .right =>
    ds.all (fun d => d ≠ .left && d ≠ .none) &&
      (lastClass? ds).any (fun d => d = .right || d = .number || d = .arabicNumber) &&
        !(ds.contains .number && ds.contains .arabicNumber)
  | some .left =>
    ds.all (fun d => d ≠ .right && d ≠ .arabicNumber && d ≠ .none) &&
      (lastClass? ds).any fun d => d = .left || d = .number
  | some _ => false

/-- Whether parts make up a name. -/
def areLabels (labels : List (List Char)) : Bool :=
  labels.all isLabel && (!labels.any isDirected || labels.all directionsAgree)

end Chaumian.Url
