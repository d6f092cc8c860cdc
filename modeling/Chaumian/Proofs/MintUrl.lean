import Chaumian.MintUrl
import Chaumian.Proofs.Outcome

/-!
# The URL of a mint is its own normal form

A text in lower case is its own lower case: no run of upper-case characters has a character that
another one becomes. Neither are the characters that separate the parts of a URL touched. So the
normal form of a URL is its own normal form, and the text of a `MintUrl` stands for that URL.

The lower case of `Σ` depends on the letters around it. Where a part of a text begins and ends with
no letter next to it, its lower case is what it is by itself.
-/

namespace Chaumian

namespace Text

/-! ## Characters in lower case -/

/-- The runs of upper-case characters, and `İ`, which becomes two characters. -/
def upperRuns : List (Nat × Nat × Nat × Nat) := (0x130, 0x130, 1, 0x69) :: lowerRuns

/-- Whether a run has the character of a number. -/
def runHas (run : Nat × Nat × Nat × Nat) (n : Nat) : Bool :=
  run.1 ≤ n && n ≤ run.2.1 && (n - run.1) % run.2.2.1 = 0

/-- What the characters of a run become is in no run. Runs that are far apart are told by their
ends. -/
theorem upperRuns_apart : lowerRuns.all (fun run => upperRuns.all fun other =>
    Nat.blt (run.2.2.2 + (run.2.1 - run.1)) other.1 || Nat.blt other.2.1 run.2.2.2 ||
      (List.range (run.2.1 + 1 - run.1)).all fun k =>
        Nat.blt 0 (k % run.2.2.1) || !runHas other (run.2.2.2 + k)) = true := by
  decide +kernel

/-- They become letters, or characters beyond ASCII. -/
theorem lowerRuns_bounds : lowerRuns.all (fun run => Nat.blt 0x60 run.2.2.2 &&
    (Nat.blt (run.2.2.2 + (run.2.1 - run.1)) 0x7b || Nat.blt 0x7f run.2.2.2) &&
    (Nat.blt (run.2.2.2 + (run.2.1 - run.1)) 0xd800 ||
      Nat.blt 0xdfff run.2.2.2 && Nat.blt (run.2.2.2 + (run.2.1 - run.1)) 0x110000)) = true := by
  decide +kernel

/-- A character that stays as it is in lower case, wherever it stands. -/
def IsLower (c : Char) : Prop := c ≠ 'Σ' ∧ c ≠ 'İ' ∧ lowerChar c = c

instance : DecidablePred IsLower := fun c =>
  inferInstanceAs (Decidable (c ≠ 'Σ' ∧ c ≠ 'İ' ∧ lowerChar c = c))

/-- Whether a character separates the parts of a URL, or of a host. -/
def separates (c : Char) : Bool := c ∈ [':', '/', '?', '#', '@', '\\', '[', ']']

theorem lowerChar_eq {c : Char} (large : 128 ≤ c.toNat) : lowerChar c =
    match lowerRuns.find? (runHas · c.toNat) with
    | some run => Char.ofNat (run.2.2.2 + (c.toNat - run.1))
    | none => c := by
  rw [lowerChar, if_neg (Nat.not_lt.2 large)]
  split
  · rename_i first last step target found
    have found : lowerRuns.find? (runHas · c.toNat) = some (first, last, step, target) := found
    rw [found]
  · rename_i unfound
    have unfound : lowerRuns.find? (runHas · c.toNat) = none := unfound
    rw [unfound]

theorem isLower_of_runs {c : Char} (ascii : c.toNat < 128 → c.toNat < 0x41 ∨ 0x5a < c.toNat)
    (inNone : 128 ≤ c.toNat → ∀ run ∈ upperRuns, runHas run c.toNat = false) : IsLower c := by
  refine ⟨?_, ?_, ?_⟩
  · rintro rfl
    have has : upperRuns.any (runHas · 'Σ'.toNat) = true := by decide +kernel
    obtain ⟨run, mem, has⟩ := List.any_eq_true.1 has
    have hasNot := inNone (by decide) run mem
    rw [has] at hasNot
    cases hasNot
  · rintro rfl
    exact absurd (inNone (by decide) _ List.mem_cons_self) (by decide +kernel)
  · by_cases small : c.toNat < 128
    · rw [lowerChar, if_pos small, if_neg]
      rintro ⟨low, high⟩
      have low : 0x41 ≤ c.toNat := low
      have high : c.toNat ≤ 0x5a := high
      have := ascii small
      omega
    · have unfound : lowerRuns.find? (runHas · c.toNat) = none := by
        refine List.find?_eq_none.2 fun run mem => ?_
        rw [inNone (by omega) run (List.mem_cons_of_mem _ mem)]
        exact Bool.false_ne_true
      rw [lowerChar_eq (by omega), unfound]

theorem separates_of_toNat {c : Char} (other : (0x41 ≤ c.toNat ∧ c.toNat ≤ 0x5a) ∨
    (0x61 ≤ c.toNat ∧ c.toNat ≤ 0x7a) ∨ 0x80 ≤ c.toNat) : separates c = false := by
  rw [separates, decide_eq_false_iff_not]
  intro mem
  have number : c.toNat ∈ [0x3a, 0x2f, 0x3f, 0x23, 0x40, 0x5c, 0x5b, 0x5d] :=
    List.mem_map_of_mem (f := Char.toNat) mem
  simp only [List.mem_cons, List.not_mem_nil, or_false] at number
  omega

/-- What a character becomes by itself stays as it is. It is the character itself, or neither of
them separates anything. -/
theorem isLower_lowerChar {c : Char} (plain : c ≠ 'İ') : IsLower (lowerChar c) ∧
    (lowerChar c = c ∨ separates c = false ∧ separates (lowerChar c) = false) := by
  by_cases small : c.toNat < 128
  · by_cases upper : 'A' ≤ c ∧ c ≤ 'Z'
    · have low : 0x41 ≤ c.toNat := upper.1
      have high : c.toNat ≤ 0x5a := upper.2
      have lower : lowerChar c = Char.ofNat (c.toNat + 32) := by
        rw [lowerChar, if_pos small, if_pos upper]
      have number : (lowerChar c).toNat = c.toNat + 32 := by
        rw [lower, Char.toNat_ofNat, if_pos (.inl (by omega))]
      exact ⟨isLower_of_runs (by omega) (by omega),
        .inr ⟨separates_of_toNat (by omega), separates_of_toNat (by omega)⟩⟩
    · have same : lowerChar c = c := by rw [lowerChar, if_pos small, if_neg upper]
      have outside : c.toNat < 0x41 ∨ 0x5a < c.toNat := by
        by_contra inside
        exact upper ⟨by show 0x41 ≤ c.toNat; omega, by show c.toNat ≤ 0x5a; omega⟩
      rw [same]
      exact ⟨isLower_of_runs (fun _ => outside) (by omega), .inl rfl⟩
  · have large : 128 ≤ c.toNat := by omega
    rcases found : lowerRuns.find? (runHas · c.toNat) with _ | run
    · have same : lowerChar c = c := by rw [lowerChar_eq large, found]
      rw [same]
      refine ⟨isLower_of_runs (by omega) fun _ run mem => ?_, .inl rfl⟩
      rcases List.mem_cons.1 mem with rfl | mem
      · -- The character is not `İ`.
        refine Bool.eq_false_iff.2 fun has => plain ?_
        simp only [runHas, Bool.and_eq_true, decide_eq_true_eq] at has
        rw [← Char.ofNat_toNat c, show c.toNat = 0x130 by omega]
      · exact Bool.eq_false_iff.2 (List.find?_eq_none.1 found run mem)
    · have mem := List.mem_of_find?_eq_some found
      have has : runHas run c.toNat = true :=
        List.find?_some (p := fun run => runHas run c.toNat) found
      have bounds := List.all_eq_true.1 lowerRuns_bounds run mem
      have apart := List.all_eq_true.1 (List.all_eq_true.1 upperRuns_apart run mem)
      simp only [runHas, Bool.and_eq_true, decide_eq_true_eq] at has
      simp only [Bool.and_eq_true, Bool.or_eq_true, Nat.blt_eq] at bounds apart
      have number : (lowerChar c).toNat = run.2.2.2 + (c.toNat - run.1) := by
        rw [lowerChar_eq large, found]
        refine (Char.toNat_ofNat _).trans (if_pos ?_)
        show _ < 0xd800 ∨ 0xdfff < _ ∧ _ < 0x110000
        omega
      refine ⟨isLower_of_runs (by omega) fun _ other there => ?_,
        .inr ⟨separates_of_toNat (by omega), separates_of_toNat (by omega)⟩⟩
      rw [number]
      -- The runs are far apart, or no character of one of them becomes one of the other.
      rcases apart other there with (below | above) | each
      · refine Bool.eq_false_iff.2 fun has' => ?_
        simp only [runHas, Bool.and_eq_true, decide_eq_true_eq] at has'
        omega
      · refine Bool.eq_false_iff.2 fun has' => ?_
        simp only [runHas, Bool.and_eq_true, decide_eq_true_eq] at has'
        omega
      · have here := List.all_eq_true.1 each (c.toNat - run.1) (List.mem_range.2 (by omega))
        simpa [has.2] using here

/-! ## Texts in lower case -/

/-- A character of a text becomes one or two characters that stay as they are; one that separates
something stays itself, and no other one comes to separate anything. -/
theorem lowerAfter_cons (before : List Char) (c : Char) (rest : List Char) :
    ∃ here, lowerAfter before (c :: rest) = here ++ lowerAfter (c :: before) rest ∧ here ≠ [] ∧
      (∀ d ∈ here, IsLower d) ∧
      (here = [c] ∨ separates c = false ∧ ∀ d ∈ here, separates d = false) := by
  rw [lowerAfter]
  by_cases sigma : c = 'Σ'
  · rw [if_pos sigma]
    refine ⟨_, rfl, List.cons_ne_nil _ _, fun d mem => ?_, .inr ⟨?_, fun d mem => ?_⟩⟩
    · rw [List.mem_singleton.1 mem]
      split
      · exact isLower_of_runs (by decide) (by decide +kernel)
      · exact isLower_of_runs (by decide) (by decide +kernel)
    · rw [sigma]
      decide
    · rw [List.mem_singleton.1 mem]
      split <;> decide
  · by_cases dotted : c = 'İ'
    · rw [if_neg sigma, if_pos dotted]
      have parts : ∀ d ∈ ['i', '\u0307'], IsLower d ∧ separates d = false := by
        intro d mem
        rcases List.mem_cons.1 mem with rfl | mem
        · exact ⟨isLower_of_runs (by decide) (by decide), by decide⟩
        · rw [List.mem_singleton.1 mem]
          exact ⟨isLower_of_runs (by decide) (by decide +kernel), by decide⟩
      refine ⟨_, rfl, List.cons_ne_nil _ _, fun d mem => (parts d mem).1,
        .inr ⟨?_, fun d mem => (parts d mem).2⟩⟩
      rw [dotted]
      decide
    · rw [if_neg sigma, if_neg dotted]
      obtain ⟨lower, same⟩ := isLower_lowerChar dotted
      refine ⟨[lowerChar c], rfl, List.cons_ne_nil _ _, by simpa using lower, ?_⟩
      simpa using same

theorem lowerAfter_of_isLower {cs : List Char} (h : ∀ c ∈ cs, IsLower c) (before : List Char) :
    lowerAfter before cs = cs := by
  induction cs generalizing before with
  | nil => rfl
  | cons c cs ih =>
    obtain ⟨sigma, dotted, same⟩ := h c List.mem_cons_self
    rw [lowerAfter, if_neg sigma, if_neg dotted, same,
      ih fun c mem => h c (List.mem_cons_of_mem _ mem)]
    rfl

theorem isLower_of_mem_lowerAfter (before cs : List Char) :
    ∀ c ∈ lowerAfter before cs, IsLower c := by
  induction cs generalizing before with
  | nil => exact nofun
  | cons c cs ih =>
    obtain ⟨here, same, -, lower, -⟩ := lowerAfter_cons before c cs
    rw [same]
    exact List.forall_mem_append.2 ⟨lower, ih _⟩

theorem toLower_ne_nil {cs : List Char} (some : cs ≠ []) : toLower cs ≠ [] := by
  obtain ⟨c, rest, rfl⟩ := List.exists_cons_of_ne_nil some
  obtain ⟨here, same, nonempty, -⟩ := lowerAfter_cons [] c rest
  rw [toLower, same]
  exact List.append_ne_nil_of_left_ne_nil nonempty _

/-- A text in lower case is its own lower case. -/
theorem toLower_toLower (cs : List Char) : toLower (toLower cs) = toLower cs :=
  lowerAfter_of_isLower (isLower_of_mem_lowerAfter [] cs) []

/-- Character by character a text has become another one: each stays, or has become others, and
then neither it nor they separate anything. -/
inductive Edited : List Char → List Char → Prop where
  | nil : Edited [] []
  | kept {c : Char} {cs ds : List Char} (others : Edited cs ds) : Edited (c :: cs) (c :: ds)
  | replaced {c : Char} {here cs ds : List Char} (plain : separates c = false)
      (plainly : ∀ d ∈ here, separates d = false) (others : Edited cs ds) :
      Edited (c :: cs) (here ++ ds)

theorem Edited.mem {cs ds : List Char} (h : Edited cs ds) {d : Char}
    (separating : separates d = true) (mem : d ∈ ds) : d ∈ cs := by
  induction h with
  | nil => exact mem
  | kept others ih =>
    rcases List.mem_cons.1 mem with rfl | mem
    · exact List.mem_cons_self
    · exact List.mem_cons_of_mem _ (ih mem)
  | replaced plain plainly others ih =>
    rcases List.mem_append.1 mem with mem | mem
    · rw [plainly d mem] at separating
      cases separating
    · exact List.mem_cons_of_mem _ (ih mem)

theorem Edited.refl (cs : List Char) : Edited cs cs := by
  induction cs with
  | nil => exact .nil
  | cons c cs ih => exact .kept ih

theorem Edited.append {cs ds cs' ds' : List Char} (h : Edited cs ds) (h' : Edited cs' ds') :
    Edited (cs ++ cs') (ds ++ ds') := by
  induction h with
  | nil => exact h'
  | kept others ih => exact .kept ih
  | replaced plain plainly others ih =>
    rw [List.append_assoc]
    exact .replaced plain plainly ih

/-- Leaving out characters that separate nothing. -/
theorem edited_filter {keep : Char → Bool} (others : ∀ c, keep c = false → separates c = false)
    (cs : List Char) : Edited cs (cs.filter keep) := by
  induction cs with
  | nil => exact .nil
  | cons c cs ih =>
    by_cases kept : keep c = true
    · rw [List.filter_cons_of_pos kept]
      exact .kept ih
    · rw [List.filter_cons_of_neg kept]
      exact @Edited.replaced c [] cs _ (others c (Bool.eq_false_iff.2 kept)) nofun ih

/-- What stands before other characters becomes lower case character by character. -/
theorem edited_lowerAfter (before cs after : List Char) : ∃ ds, Edited cs ds ∧ (ds = [] → cs = []) ∧
    lowerAfter before (cs ++ after) = ds ++ lowerAfter (cs.reverse ++ before) after := by
  induction cs generalizing before with
  | nil => exact ⟨[], .nil, fun _ => rfl, rfl⟩
  | cons c cs ih =>
    obtain ⟨ds, edited, -, others⟩ := ih (c :: before)
    obtain ⟨here, same, some, -, kept⟩ := lowerAfter_cons before c (cs ++ after)
    rw [List.cons_append, same, others, List.reverse_cons, List.append_assoc]
    refine ⟨here ++ ds, ?_, fun none => absurd (List.append_eq_nil_iff.1 none).1 some,
      (List.append_assoc _ _ _).symm⟩
    rcases kept with rfl | ⟨plain, plainly⟩
    · exact .kept edited
    · exact .replaced plain plainly edited

theorem edited_toLower (cs : List Char) : Edited cs (toLower cs) := by
  obtain ⟨ds, edited, -, same⟩ := edited_lowerAfter [] cs []
  rw [List.append_nil, lowerAfter, List.append_nil] at same
  rw [toLower, same]
  exact edited

/-- What separates something in lower case has been there before. -/
theorem mem_of_mem_lowerAfter {before cs : List Char} {d : Char} (separating : separates d = true)
    (mem : d ∈ lowerAfter before cs) : d ∈ cs := by
  obtain ⟨ds, edited, -, same⟩ := edited_lowerAfter before cs []
  rw [List.append_nil, lowerAfter, List.append_nil] at same
  exact edited.mem separating (same ▸ mem)

/-! ## The lower case of parts of a text -/

theorem meetsCased_cons (c : Char) (cs : List Char) : meetsCased (c :: cs) =
    if withinBounds caseIgnorableBounds c.toNat then meetsCased cs
    else withinBounds casedBounds c.toNat := by
  unfold meetsCased
  rw [List.dropWhile_cons]
  by_cases ignored : withinBounds caseIgnorableBounds c.toNat = true
  · rw [if_pos ignored, if_pos ignored]
  · rw [if_neg ignored, if_neg ignored]

/-- Whether no letter of a word follows a character. -/
def endsWord (c : Char) : Bool :=
  !withinBounds caseIgnorableBounds c.toNat && !withinBounds casedBounds c.toNat

theorem meetsCased_of_endsWord {c : Char} (h : endsWord c = true) (cs : List Char) :
    meetsCased (c :: cs) = false := by
  obtain ⟨stops, plain⟩ := (Bool.and_eq_true _ _).mp h
  rw [meetsCased_cons, if_neg (by simpa using stops)]
  simpa using plain

/-- Blanks, digits and most other characters before the letters of ASCII end a word. -/
theorem endsWord_of_toNat {c : Char} (small : c.toNat < 0x41)
    (other : c.toNat ∉ [0x27, 0x2e, 0x3a]) : endsWord c = true := by
  have all : (List.range 0x41).all (fun n => n ∈ [0x27, 0x2e, 0x3a] ||
      !withinBounds caseIgnorableBounds n && !withinBounds casedBounds n) = true := by
    decide +kernel
  have here := List.all_eq_true.1 all c.toNat (List.mem_range.2 small)
  rw [decide_eq_false other, Bool.false_or] at here
  exact here

theorem endsWord_of_isDigit {c : Char} (h : c.isDigit = true) : endsWord c = true := by
  obtain ⟨low, high⟩ := (Bool.and_eq_true _ _).mp h
  have low : 0x30 ≤ c.toNat := of_decide_eq_true low
  have high : c.toNat ≤ 0x39 := of_decide_eq_true high
  exact endsWord_of_toNat (by omega) (by simp; omega)

theorem endsWord_of_le {c : Char} (h : c ≤ ' ') : endsWord c = true := by
  have small : c.toNat ≤ 0x20 := h
  exact endsWord_of_toNat (by omega) (by simp; omega)

/-- What no letter follows ends as a text does. -/
theorem meetsCased_append {after : List Char} (h : meetsCased after = false) (cs : List Char) :
    meetsCased (cs ++ after) = meetsCased cs := by
  induction cs with
  | nil => exact h
  | cons c cs ih => rw [List.cons_append, meetsCased_cons, meetsCased_cons, ih]

theorem lowerAfter_append {after : List Char} (h : meetsCased after = false)
    (before cs : List Char) : lowerAfter before (cs ++ after) =
      lowerAfter before cs ++ lowerAfter (cs.reverse ++ before) after := by
  induction cs generalizing before with
  | nil => rfl
  | cons c cs ih =>
    rw [List.cons_append, lowerAfter, lowerAfter, ih, meetsCased_append h, List.reverse_cons,
      List.append_assoc, List.append_assoc, List.singleton_append]

/-- What follows no letter begins as a text does. -/
theorem lowerAfter_append_before {before : List Char} (h : meetsCased before = false)
    (near cs : List Char) : lowerAfter (near ++ before) cs = lowerAfter near cs := by
  induction cs generalizing near with
  | nil => rfl
  | cons c cs ih =>
    rw [lowerAfter, lowerAfter, meetsCased_append h, ← List.cons_append, ih]

/-- What is in lower case stays, whatever follows it. -/
theorem lowerAfter_append_of_isLower {cs : List Char} (h : ∀ c ∈ cs, IsLower c)
    (before after : List Char) :
    lowerAfter before (cs ++ after) = cs ++ lowerAfter (cs.reverse ++ before) after := by
  induction cs generalizing before with
  | nil => rfl
  | cons c cs ih =>
    obtain ⟨sigma, dotted, same⟩ := h c List.mem_cons_self
    rw [List.cons_append, lowerAfter, if_neg sigma, if_neg dotted, same,
      ih fun c mem => h c (List.mem_cons_of_mem _ mem), List.reverse_cons, List.append_assoc]
    rfl

end Text

namespace MintUrl

open Text

/-! ## The parts of a URL -/

/-- A character that is not in a text does not end what is taken from it. -/
theorem differs_of_notMem {d : Char} {cs : List Char} (none : d ∉ cs) :
    ∀ c ∈ cs, decide (c ≠ d) = true := by
  intro c mem
  refine decide_eq_true ?_
  rintro rfl
  exact none mem

/-- What stands between a scheme and a host. -/
def mark : List Char := [':', '/', '/']

theorem eq_of_splitScheme? {cs scheme rest : List Char}
    (h : splitScheme? cs = some (scheme, rest)) : cs = scheme ++ (mark ++ rest) := by
  induction cs generalizing scheme with
  | nil => cases h
  | cons c cs ih =>
    unfold splitScheme? at h
    split at h
    · rename_i same
      cases h
      exact same
    · rename_i same
      cases same
      obtain ⟨⟨scheme', rest'⟩, found, h⟩ := Option.map_eq_some_iff.1 h
      cases h
      rw [ih found]
      rfl
    · rename_i same
      cases same

/-- Where no mark begins, the scheme goes on. -/
theorem splitScheme?_cons {c : Char} {cs : List Char} (apart : ∀ rest, c :: cs ≠ mark ++ rest) :
    splitScheme? (c :: cs) = (splitScheme? cs).map fun (scheme, host) => (c :: scheme, host) := by
  rw [splitScheme?]
  rintro rest rfl rfl
  exact apart rest rfl

theorem splitScheme?_append {part : List Char} (plain : ∀ c ∈ part, separates c = false)
    (cs : List Char) : splitScheme? (part ++ cs) =
      (splitScheme? cs).map fun (scheme, host) => (part ++ scheme, host) := by
  induction part with
  | nil =>
    rw [List.nil_append]
    cases splitScheme? cs <;> rfl
  | cons c part ih =>
    have apart (rest : List Char) : c :: (part ++ cs) ≠ mark ++ rest := by
      intro same
      have first := plain c List.mem_cons_self
      rw [(List.cons.inj same).1] at first
      cases first
    rw [List.cons_append, splitScheme?_cons apart, ih fun c mem =>
      plain c (List.mem_cons_of_mem _ mem)]
    cases splitScheme? cs <;> rfl

/-- A slash at the beginning in lower case has been there before. -/
theorem slash_of_lowerAfter {before cs rest text : List Char}
    (h : lowerAfter before cs ++ (mark ++ rest) = '/' :: text) :
    ∃ others, cs = '/' :: others ∧ text = lowerAfter ('/' :: before) others ++ (mark ++ rest) := by
  cases cs with
  | nil => exact absurd (List.cons.inj h).1 (by decide)
  | cons c cs =>
    obtain ⟨here, same, some, -, kept | ⟨-, plain⟩⟩ := lowerAfter_cons before c cs
    · rw [same, kept] at h
      obtain ⟨rfl, rfl⟩ := List.cons.inj h
      exact ⟨cs, rfl, rfl⟩
    · obtain ⟨d, others, rfl⟩ := List.exists_cons_of_ne_nil some
      rw [same] at h
      have first := plain d List.mem_cons_self
      rw [(List.cons.inj h).1] at first
      cases first

/-- Where a scheme ends is the same in lower case. -/
theorem splitScheme?_lowerAfter {scheme rest : List Char}
    (h : splitScheme? (scheme ++ (mark ++ rest)) = some (scheme, rest))
    (before rest' : List Char) : splitScheme? (lowerAfter before scheme ++ (mark ++ rest')) =
      some (lowerAfter before scheme, rest') := by
  induction scheme generalizing before with
  | nil => rfl
  | cons c cs ih =>
    have apart (others : List Char) : c :: (cs ++ (mark ++ rest)) ≠ mark ++ others := by
      intro same
      rw [List.cons_append, same] at h
      cases h
    have inner : splitScheme? (cs ++ (mark ++ rest)) = some (cs, rest) := by
      rw [List.cons_append, splitScheme?_cons apart] at h
      obtain ⟨⟨scheme, host⟩, found, same⟩ := Option.map_eq_some_iff.1 h
      cases same
      exact found
    obtain ⟨here, same, -, -, kept | ⟨-, plain⟩⟩ := lowerAfter_cons before c cs
    · have apart' (others : List Char) :
          c :: (lowerAfter (c :: before) cs ++ (mark ++ rest')) ≠ mark ++ others := by
        intro begins
        obtain ⟨rfl, first⟩ := List.cons.inj begins
        obtain ⟨more, rfl, second⟩ := slash_of_lowerAfter first
        obtain ⟨more, rfl, -⟩ := slash_of_lowerAfter second.symm
        exact apart _ rfl
      rw [same, kept, List.singleton_append, List.cons_append, splitScheme?_cons apart', ih inner]
      rfl
    · rw [same, List.append_assoc, splitScheme?_append plain, ih inner]
      rfl

theorem getLast?_dropSlashes (cs : List Char) : (dropSlashes cs).getLast? ≠ some '/' := by
  intro slash
  obtain ⟨some, last⟩ := List.mem_getLast?_eq_getLast slash
  exact List.rdropWhile_last_not (· = '/') cs some (decide_eq_true last.symm)

theorem dropSlashes_eq_self {cs : List Char} (h : cs.getLast? ≠ some '/') :
    dropSlashes cs = cs := by
  refine List.rdropWhile_eq_self_iff.2 fun some slash => h ?_
  rw [List.getLast?_eq_some_getLast some]
  exact congrArg _ (of_decide_eq_true slash)

/-- A scheme, a host and a path that is not empty and does not end with a slash, or no path. -/
theorem normalForm?_append {scheme host path : List Char}
    (ends : splitScheme? (scheme ++ (mark ++ (host ++ path))) = some (scheme, host ++ path))
    (some : host ≠ []) (plain : '/' ∉ host)
    (tail : path = [] ∨ ∃ first rest, path = '/' :: first :: rest)
    (last : path.getLast? ≠ .some '/') :
    normalForm? (scheme ++ (mark ++ (host ++ path))) =
      .some (toLower scheme ++ (mark ++ (toLower host ++ path))) := by
  have hostLast : host.getLast? ≠ .some '/' := fun slash => plain (List.mem_of_getLast? slash)
  have whole : dropSlashes (scheme ++ (mark ++ (host ++ path))) =
      scheme ++ (mark ++ (host ++ path)) := by
    refine dropSlashes_eq_self ?_
    rw [List.getLast?_append, List.getLast?_append, List.getLast?_append]
    rw [List.getLast?_eq_some_getLast some] at hostLast ⊢
    cases found : path.getLast? with
    | none => exact hostLast
    | some c =>
      rw [found] at last
      exact last
  have taken : (host ++ path).takeWhile (· ≠ '/') = host := by
    rw [List.takeWhile_append_of_pos (differs_of_notMem plain)]
    rcases tail with rfl | ⟨first, rest, rfl⟩
    · rw [List.takeWhile_nil, List.append_nil]
    · rw [List.takeWhile_cons_of_neg (by decide), List.append_nil]
  have left : (host ++ path).drop (host.length + 1) = path.drop 1 := by
    rw [List.drop_append, List.drop_of_length_le (Nat.le_succ _), List.nil_append,
      Nat.add_sub_cancel_left]
  unfold normalForm?
  rw [whole, ends]
  show (if (host ++ path).takeWhile (· ≠ '/') = [] then none else _) = _
  rw [taken, if_neg some, left]
  rcases tail with rfl | ⟨first, rest, rfl⟩
  · simp [mark]
  · simp [mark]

/-- What the normal form of a text is made of. -/
theorem normalForm?_eq_some {cs normal : List Char} (h : normalForm? cs = some normal) :
    ∃ scheme host path : List Char, dropSlashes cs = scheme ++ (mark ++ (host ++ path)) ∧
      splitScheme? (scheme ++ (mark ++ (host ++ path))) = some (scheme, host ++ path) ∧
      host ≠ [] ∧ '/' ∉ host ∧ (path = [] ∨ ∃ first rest, path = '/' :: first :: rest) ∧
      path.getLast? ≠ some '/' ∧ normal = toLower scheme ++ (mark ++ (toLower host ++ path)) := by
  obtain ⟨⟨scheme, rest⟩, ends, h⟩ := Option.bind_eq_some_iff.1 h
  dsimp only at h
  have text := eq_of_splitScheme? ends
  have last := getLast?_dropSlashes cs
  rw [text] at ends last
  have parted := List.takeWhile_append_dropWhile (p := (· ≠ '/')) (l := rest)
  have plain : '/' ∉ rest.takeWhile (· ≠ '/') := by
    intro mem
    simpa using List.mem_takeWhile_imp mem
  split at h
  · cases h
  · rename_i some
    cases h
    have left : rest.drop ((rest.takeWhile (· ≠ '/')).length + 1) =
        (rest.dropWhile (· ≠ '/')).drop 1 := by
      conv_lhs => rw [← parted]
      rw [List.drop_append, List.drop_of_length_le (by simp), List.nil_append]
      simp
    have begins : ∀ c ∈ (rest.dropWhile (· ≠ '/')).head?, c = '/' := by
      intro c first
      have stops := List.head?_dropWhile_not (· ≠ '/') rest
      rw [first] at stops
      simpa using stops
    rw [left]
    generalize rest.dropWhile (· ≠ '/') = path at *
    have pathLast : path.getLast? ≠ .some '/' := by
      intro slash
      rw [← parted, List.getLast?_append, List.getLast?_append, List.getLast?_append, slash] at last
      exact last rfl
    have tail : path = [] ∨ ∃ first others, path = '/' :: first :: others := by
      rcases path with _ | ⟨c, _ | ⟨first, others⟩⟩
      · exact .inl rfl
      · obtain rfl := begins c rfl
        exact absurd rfl pathLast
      · obtain rfl := begins c rfl
        exact .inr ⟨first, others, rfl⟩
    refine ⟨scheme, rest.takeWhile (· ≠ '/'), path, ?_, ?_, some, plain, tail, pathLast, ?_⟩
    · rw [parted]
      exact text
    · rw [parted]
      exact ends
    · rcases tail with rfl | ⟨first, others, rfl⟩
      · simp [mark]
      · simp [mark]

/-- The normal form of a text is its own normal form. -/
theorem normalForm?_normalForm? {cs normal : List Char} (h : normalForm? cs = some normal) :
    normalForm? normal = some normal := by
  obtain ⟨scheme, host, path, -, ends, some, plain, tail, last, rfl⟩ := normalForm?_eq_some h
  have lower : splitScheme? (toLower scheme ++ (mark ++ (toLower host ++ path))) =
      .some (toLower scheme, toLower host ++ path) :=
    splitScheme?_lowerAfter ends [] (toLower host ++ path)
  have again := normalForm?_append lower (toLower_ne_nil some)
    (fun slash => plain (mem_of_mem_lowerAfter (by decide) slash)) tail last
  rw [toLower_toLower, toLower_toLower] at again
  exact again

theorem normalize_normalize {cs normal : List Char} (h : normalize cs = .ok normal) :
    normalize normal = .ok normal := by
  unfold normalize at h
  split at h
  · cases h
  · rename_i normal' form
    obtain ⟨_, checked, h⟩ := bind_eq_ok.1 h
    cases h
    rw [normalize, normalForm?_normalForm? form]
    exact bind_eq_ok.2 ⟨(), checked, rfl⟩

/-- The text of the URL of a mint stands for that URL. -/
theorem ofText_text (url : MintUrl) : ofText url.text = .ok url := by
  obtain ⟨cs, normal⟩ := url.normal
  have again := normalize_normalize normal
  unfold ofText
  split
  · rename_i normal' same
    cases same.symm.trans again
    refine congrArg Except.ok ?_
    obtain ⟨text, _⟩ := url
    simp
  · rename_i e failed
    cases failed.symm.trans again

end MintUrl

end Chaumian
