import Chaumian.Json.Record

/-!
Refusals: what a mint answers instead of doing what it was asked.
-/

namespace Chaumian

open Json (Codec)

/-- The reasons that have a code of their own. -/
inductive RefusalReason where
  | notVerified
  | alreadySpent
  | pending
  | alreadySigned
  | unbalanced
  | keysetNotFound
  | quoteNotPaid
  | alreadyIssued
  | lightning
  | quoteNotFound
  deriving DecidableEq, Repr

/-- The code of a refusal, a number of 16 bits. -/
structure RefusalCode where
  value : Fin (Nat.pow 2 16)
  deriving DecidableEq, Repr

/-- The code of a reason. -/
def RefusalReason.code : RefusalReason → RefusalCode
  | notVerified => ⟨10001⟩
  | alreadySpent => ⟨11001⟩
  | pending => ⟨11002⟩
  | alreadySigned => ⟨11003⟩
  | unbalanced => ⟨11005⟩
  | keysetNotFound => ⟨12001⟩
  | quoteNotPaid => ⟨20001⟩
  | alreadyIssued => ⟨20002⟩
  | lightning => ⟨20004⟩
  | quoteNotFound => ⟨20007⟩

namespace RefusalCode

/-- All reasons. -/
def reasons : List RefusalReason :=
  [.notVerified, .alreadySpent, .pending, .alreadySigned, .unbalanced, .keysetNotFound,
    .quoteNotPaid, .alreadyIssued, .lightning, .quoteNotFound]

/-- The reason a code stands for, if it has one. -/
def reason? (code : RefusalCode) : Option RefusalReason := reasons.find? (·.code = code)

/-- The code of answers that are not refusals in form. -/
def formless : RefusalCode := ⟨999⟩

/-- The text of a code. -/
def toText (code : RefusalCode) : String := toString code.value.val

/-- The name of a code. -/
def name (code : RefusalCode) : String :=
  match code.reason? with
  | some .notVerified => "TokenNotVerified"
  | some .alreadySpent => "TokenAlreadySpent"
  | some .pending => "TokenPending"
  | some .alreadySigned => "BlindedMessageAlreadySigned"
  | some .unbalanced => "TransactionUnbalanced"
  | some .keysetNotFound => "KeysetNotFound"
  | some .quoteNotPaid => "QuoteNotPaid"
  | some .alreadyIssued => "TokensAlreadyIssued"
  | some .lightning => "LightningError"
  | some .quoteNotFound => "QuoteNotFound"
  | none => s!"Unknown({code.toText})"

/-- Codes in JSON are numbers. -/
def codec : Codec RefusalCode := (Codec.unsigned 16).map RefusalCode.mk RefusalCode.value

end RefusalCode

/-- A refusal. -/
structure Refusal where
  code : RefusalCode
  /-- The mint's own words, which are passed on as they are. -/
  detail : String
  deriving DecidableEq

namespace Refusal

/-- The refusal for a reason. -/
def of (reason : RefusalReason) (detail : String) : Refusal := ⟨reason.code, detail⟩

/-- A refusal in a message. -/
def toText (r : Refusal) : String := s!"code: {r.code.toText}, detail: {r.detail}"

/-- The fields of a refusal. -/
def codec : Codec Refusal :=
  (Codec.record "ErrorResponse"
    (.cons (.required "code" RefusalCode.codec) <|
      .cons (.withDefault "detail" Codec.string "") .nil)).map
    (fun (code, detail, _) => ⟨code, detail⟩) (fun r => (r.code, r.detail, ()))

/-- The code a value is, if it is one. -/
def codeOf? : Json.Value → Option RefusalCode
  | .number (.natural n) => if h : n < Nat.pow 2 16 then some ⟨⟨n, h⟩⟩ else none
  | _ => none

/-- The detail a value is, if it is one. -/
def detailOf? : Json.Value → Option String
  | .string s => some s
  | _ => none

/-- The refusal that a value has the form of: an object with its fields, or an array of them. -/
def ofForm? : Json.Value → Option Refusal
  | .object members => do
    let code ← codeOf? (← members.lookup "code")
    match members.lookup "detail" with
    | none => return ⟨code, ""⟩
    | some v => return ⟨code, ← detailOf? v⟩
  | .array [code] => do return ⟨← codeOf? code, ""⟩
  | .array [code, detail] => do return ⟨← codeOf? code, ← detailOf? detail⟩
  | _ => none

/-- The refusal a value stands for; one of another form is kept whole as the detail. -/
def ofValue (v : Json.Value) : Refusal := (ofForm? v).getD ⟨.formless, v.toText⟩

/-- The refusal a text stands for. -/
def ofText (text : String) : Except Json.Fault Refusal := do
  return ofValue (← Json.Value.ofText text)

end Refusal

end Chaumian
