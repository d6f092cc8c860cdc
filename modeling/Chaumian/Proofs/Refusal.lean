import Chaumian.Message.Refusal
import Chaumian.Proofs.Json.Value

/-!
# Nothing a mint answers with is lost

A mint that does not do what it was asked may answer with any JSON. Where that has the form of a
refusal, which is said here apart from how it is looked for, its code and its detail are taken as
they are. Where it has not, all of it becomes the detail, under the code that stands for no reason,
and can be read from there again.
-/

namespace Chaumian

namespace Refusal

/-- A value with the form of a refusal, its code and its detail, if it has one. -/
inductive HasForm : Json.Value → RefusalCode → Option String → Prop where
  /-- An object with a code, and with a detail that is a string or with none. It may have other
  members. -/
  | object {members : List (String × Json.Value)} {code : RefusalCode} {detail : Option String}
      (codes : ("code", .number (.natural code.value.val)) ∈ members)
      (details : ∀ v, ("detail", v) ∈ members ↔ detail.map Json.Value.string = some v) :
      HasForm (.object members) code detail
  /-- An array of the code and, perhaps, the detail. -/
  | array {code : RefusalCode} {detail : Option String} :
      HasForm (.array (.number (.natural code.value.val) ::
        (detail.map Json.Value.string).toList)) code detail

theorem codeOf?_eq_some_iff {v : Json.Value} {code : RefusalCode} :
    codeOf? v = some code ↔ v = .number (.natural code.value.val) := by
  constructor
  · intro h
    unfold codeOf? at h
    split at h
    · split at h
      · cases h
        rfl
      · cases h
    · cases h
  · rintro rfl
    exact dif_pos code.value.isLt

theorem detailOf?_eq_some_iff {v : Json.Value} {detail : String} :
    detailOf? v = some detail ↔ v = .string detail := by
  constructor
  · intro h
    unfold detailOf? at h
    split at h
    · cases h
      rfl
    · cases h
  · rintro rfl
    rfl

/-- Where the names of an object are in order, a detail is looked up as it is among the members. -/
theorem lookup_detail {members : List (String × Json.Value)} (ascending : Json.Ascending members)
    {detail : Option String}
    (details : ∀ v, ("detail", v) ∈ members ↔ detail.map Json.Value.string = some v) :
    members.lookup "detail" = detail.map Json.Value.string :=
  Option.ext fun v => ascending.lookup_eq_some_iff.trans (details v)

/-- A value of the form is taken as what it has the form of. -/
theorem HasForm.ofForm? {levels : Nat} {v : Json.Value} (ordered : v.Ordered levels)
    {code : RefusalCode} {detail : Option String} (form : HasForm v code detail) :
    ofForm? v = some ⟨code, detail.getD ""⟩ := by
  have coded := codeOf?_eq_some_iff.2 (rfl : _ = Json.Value.number (.natural code.value.val))
  cases form with
  | object codes details =>
    rcases ordered with _ | _ | _ | _ | _ | ⟨ascending, -⟩
    refine Option.bind_eq_some_iff.2 ⟨_, ascending.lookup_eq_some_iff.2 codes,
      Option.bind_eq_some_iff.2 ⟨code, coded, ?_⟩⟩
    rw [lookup_detail ascending details]
    cases detail <;> rfl
  | array =>
    cases detail with
    | none => exact Option.bind_eq_some_iff.2 ⟨code, coded, rfl⟩
    | some detail => exact Option.bind_eq_some_iff.2 ⟨code, coded, rfl⟩

/-- What is taken as a refusal has the form of one. -/
theorem exists_hasForm {levels : Nat} {v : Json.Value} (ordered : v.Ordered levels) {r : Refusal}
    (h : Refusal.ofForm? v = some r) : ∃ detail, HasForm v r.code detail := by
  unfold Refusal.ofForm? at h
  split at h
  · rename_i members
    rcases ordered with _ | _ | _ | _ | _ | ⟨ascending, -⟩
    obtain ⟨c, codes, h⟩ := Option.bind_eq_some_iff.1 h
    obtain ⟨code, coded, h⟩ := Option.bind_eq_some_iff.1 h
    rw [codeOf?_eq_some_iff.1 coded, ascending.lookup_eq_some_iff] at codes
    split at h
    · rename_i none
      cases h
      refine ⟨.none, .object codes fun v => ?_⟩
      rw [← ascending.lookup_eq_some_iff, none]
      rfl
    · rename_i d found
      obtain ⟨detail, detailed, h⟩ := Option.bind_eq_some_iff.1 h
      cases h
      refine ⟨some detail, .object codes fun v => ?_⟩
      rw [← ascending.lookup_eq_some_iff, found, detailOf?_eq_some_iff.1 detailed]
      rfl
  · obtain ⟨code, coded, h⟩ := Option.bind_eq_some_iff.1 h
    cases h
    rw [codeOf?_eq_some_iff.1 coded]
    exact ⟨none, @HasForm.array code none⟩
  · obtain ⟨code, coded, h⟩ := Option.bind_eq_some_iff.1 h
    obtain ⟨detail, detailed, h⟩ := Option.bind_eq_some_iff.1 h
    cases h
    rw [codeOf?_eq_some_iff.1 coded, detailOf?_eq_some_iff.1 detailed]
    exact ⟨some detail, @HasForm.array code (some detail)⟩
  · cases h

theorem name_formless : RefusalCode.formless.name = "Unknown(999)" := by
  decide +kernel

/-- Every JSON is taken as a refusal. One of the form keeps its code, and its detail if it has one.
One of another form is kept whole: if its numbers are whole, it is what the detail is read as. -/
theorem body_kept {text : String} {v : Json.Value} (read : Json.Value.ofText text = .ok v) :
    ∃ r, ofText text = .ok r ∧
      (∀ code detail, HasForm v code detail → r.code = code ∧ r.detail = detail.getD "") ∧
      ((∀ code detail, ¬HasForm v code detail) → r.code.name = "Unknown(999)" ∧
        r.code = .formless ∧
        ((∀ n ∈ v.numbers, n.IsWhole) → Json.Value.ofText r.detail = .ok v)) := by
  have ordered := Json.Value.ordered_of_ofText read
  refine ⟨ofValue v, ?_, fun code detail form => ?_, fun formless => ?_⟩
  · rw [ofText, read]
    rfl
  · rw [ofValue, form.ofForm? ordered]
    exact ⟨rfl, rfl⟩
  · have none : Refusal.ofForm? v = none := by
      refine Option.eq_none_iff_forall_ne_some.2 fun r found => ?_
      obtain ⟨detail, form⟩ := exists_hasForm ordered found
      exact formless r.code detail form
    have kept : ofValue v = ⟨.formless, v.toText⟩ := by rw [ofValue, none]; rfl
    rw [kept]
    exact ⟨name_formless, rfl, Json.Value.ofText_toText read⟩

end Refusal

namespace Sample

/-- An answer of another form: its code takes more than 16 bits, its names are not in order and one
of them is there twice, and its numbers are at the limits of 64 bits. -/
def outage : String :=
  "\x7b\"detail\": [null, \"hôte \\\"a\\\"\\n\"], \"code\": 65536, " ++
    "\"at\": \x7b\"b\": -0, \"a\": [], \"a\": -9223372036854775808\x7d\x7d"

/-- The value of that answer. -/
def outageValue : Json.Value :=
  .object [("at", .object [("a", .number (.negative 9223372036854775808)),
      ("b", .number (.binary true .zero))]),
    ("code", .number (.natural 65536)), ("detail", .array [.null, .string "hôte \"a\"\n"])]

set_option maxRecDepth 4000 in
theorem ofText_outage : Json.Value.ofText outage = .ok outageValue := rfl

/-- The code that does not fit is not taken for one, and all of the answer is kept. -/
theorem outage_kept : ∃ r, Refusal.ofText outage = .ok r ∧ r.code = .formless ∧
    Json.Value.ofText r.detail = .ok outageValue := by
  obtain ⟨r, taken, -, kept⟩ := Refusal.body_kept ofText_outage
  have formless : ∀ code detail, ¬Refusal.HasForm outageValue code detail := by
    intro code detail form
    have found := form.ofForm? (Json.Value.ordered_of_ofText ofText_outage)
    cases found
  obtain ⟨-, code, again⟩ := kept formless
  exact ⟨r, taken, code, again (by decide)⟩

end Sample

end Chaumian
