import Chaumian.Proofs.Json

/-!
# Values without a type are read again from what is written for them

The members of an object are kept in the order of their names, each name once with the last value it
had in the text. So a text that is read is hardly ever the text that is written for its value. But a
value that was read has its members in order and is not nested too deeply (`Value.Ordered`), and
from the text written for such a value the same value is read, as long as its numbers are whole and
of at most 64 bits.

Other numbers need not be read again as what they were. `3000e22` is written `3e+25`, as that is the
shortest text that is nearest to its magnitude, but read from that is the next larger magnitude: the
reader multiplies the significand and a power of ten that has been rounded itself.
-/

namespace Chaumian.Json

/-! ## Members in order -/

section Members

variable {α : Type} {name : String} {value : α} {members : List (String × α)}

/-- Members in the order of their names, each name once. -/
def Ascending (members : List (String × α)) : Prop := members.Pairwise (·.1 < ·.1)

theorem mem_insertMember {m : String × α} (mem : m ∈ insertMember name value members) :
    m = (name, value) ∨ m ∈ members := by
  induction members with
  | nil => exact .inl (List.mem_singleton.1 mem)
  | cons first rest ih =>
    unfold insertMember at mem
    split_ifs at mem
    · exact List.mem_cons.1 mem
    · exact (List.mem_cons.1 mem).imp_right (List.mem_cons_of_mem _)
    · rcases List.mem_cons.1 mem with rfl | mem
      · exact .inr List.mem_cons_self
      · exact (ih mem).imp_right (List.mem_cons_of_mem _)

theorem Ascending.insertMember (h : Ascending members) :
    Ascending (insertMember name value members) := by
  induction members with
  | nil => exact List.pairwise_singleton _ _
  | cons first rest ih =>
    obtain ⟨below, others⟩ := List.pairwise_cons.1 h
    unfold Json.insertMember
    split_ifs with less same
    · refine List.pairwise_cons.2 ⟨fun m mem => ?_, h⟩
      rcases List.mem_cons.1 mem with rfl | mem
      · exact less
      · exact String.lt_trans less (below m mem)
    · exact List.pairwise_cons.2 ⟨same ▸ below, others⟩
    · refine List.pairwise_cons.2 ⟨fun m mem => ?_, ih others⟩
      rcases mem_insertMember mem with rfl | mem
      · exact lt_of_le_of_ne (not_lt.1 less) (Ne.symm same)
      · exact below m mem

/-- What is put in under a name behind all others comes last. -/
theorem insertMember_of_lt (above : ∀ m ∈ members, m.1 < name) :
    insertMember name value members = members ++ [(name, value)] := by
  induction members with
  | nil => rfl
  | cons first rest ih =>
    have less := above first List.mem_cons_self
    rw [insertMember, if_neg (String.lt_asymm less), if_neg (ne_of_gt less),
      ih fun m mem => above m (List.mem_cons_of_mem _ mem), List.cons_append]

/-- Members in order are put in one behind the other. -/
theorem foldl_insertMember (later : List (String × α)) (h : Ascending (members ++ later)) :
    later.foldl (fun members m => Json.insertMember m.1 m.2 members) members =
      members ++ later := by
  induction later generalizing members with
  | nil => exact (List.append_nil _).symm
  | cons m later ih =>
    have above : ∀ d ∈ members, d.1 < m.1 := fun d mem =>
      (List.pairwise_append.1 h).2.2 d mem m List.mem_cons_self
    rw [List.foldl_cons, insertMember_of_lt above, ih (by simpa using h), List.append_assoc,
      List.singleton_append]

/-- A name leads to the one member that has it. -/
theorem Ascending.lookup_eq_some_iff (h : Ascending members) :
    members.lookup name = some value ↔ (name, value) ∈ members := by
  rw [List.lookup_eq_some_iff]
  constructor
  · rintro ⟨before, after, rfl, -⟩
    exact List.mem_append_right _ List.mem_cons_self
  · intro mem
    obtain ⟨before, after, rfl⟩ := List.append_of_mem mem
    refine ⟨before, after, rfl, fun m there => bne_iff_ne.2 ?_⟩
    exact ne_of_gt ((List.pairwise_append.1 h).2.2 m there _ List.mem_cons_self)

end Members

/-! ## What is read -/

/-- What every item is, all items of an array are. -/
theorem forall_of_readItems {α : Type} {item : Reader α} {P : α → Prop}
    (each : ∀ cs x rest, item cs = .ok (x, rest) → P x) {steps : Nat} {first : Bool}
    {cs rest : List Char} {xs : List α} (h : readItems item steps first cs = .ok (xs, rest)) :
    ∀ x ∈ xs, P x := by
  induction steps generalizing first cs xs rest with
  | zero => cases h
  | succ steps ih =>
    obtain ⟨next, -, h⟩ := bind_eq_ok.1 h
    cases next with
    | done rest =>
      cases h
      exact nofun
    | part cs =>
      obtain ⟨⟨x, behind⟩, here, h⟩ := bind_eq_ok.1 h
      obtain ⟨⟨others, _⟩, later, h⟩ := bind_eq_ok.1 h
      cases h
      exact List.forall_mem_cons.2 ⟨each _ _ _ here, ih later⟩

/-- What each member keeps, all members of an object keep. -/
theorem of_readMembers {σ : Type} {member : σ → Reader σ} {P : σ → Prop}
    (step : ∀ s cs t rest, P s → member s cs = .ok (t, rest) → P t) {steps : Nat} {first : Bool}
    {s t : σ} {cs rest : List Char} (start : P s)
    (h : readMembers member steps first s cs = .ok (t, rest)) : P t := by
  induction steps generalizing first s cs with
  | zero => cases h
  | succ steps ih =>
    obtain ⟨next, -, h⟩ := bind_eq_ok.1 h
    cases next with
    | done rest =>
      cases h
      exact start
    | part cs =>
      obtain ⟨⟨s', behind⟩, here, h⟩ := bind_eq_ok.1 h
      exact ih (step _ _ _ _ start here) h

namespace Value

/-- A value as it is read: with so many levels of arrays and objects at most, and with the members
of each object in the order of their names. -/
inductive Ordered : (levels : Nat) → Value → Prop where
  | null {levels : Nat} : Ordered levels .null
  | bool {levels : Nat} {b : Bool} : Ordered levels (.bool b)
  | number {levels : Nat} {n : Number} : Ordered levels (.number n)
  | string {levels : Nat} {s : String} : Ordered levels (.string s)
  | array {levels : Nat} {items : List Value} (each : ∀ v ∈ items, Ordered levels v) :
      Ordered (levels + 1) (.array items)
  | object {levels : Nat} {members : List (String × Value)} (ascending : Ascending members)
      (each : ∀ m ∈ members, Ordered levels m.2) : Ordered (levels + 1) (.object members)

/-- Reads a member from behind the opening quote of its name and puts it in. -/
def readMember (depth : Nat) (members : List (String × Value)) : Reader (List (String × Value)) :=
  fun cs => do
    let (name, rest) ← readString cs
    let (v, rest) ← read depth (← readColon rest)
    return (insertMember (String.ofList name) v members, rest)

theorem ordered_of_readMember {depth : Nat}
    (values : ∀ cs v rest, read depth cs = .ok (v, rest) → Ordered depth v)
    {cs rest : List Char} {members members' : List (String × Value)}
    (kept : Ascending members ∧ ∀ m ∈ members, Ordered depth m.2)
    (h : readMember depth members cs = .ok (members', rest)) :
    Ascending members' ∧ ∀ m ∈ members', Ordered depth m.2 := by
  obtain ⟨⟨name, behind⟩, -, h⟩ := bind_eq_ok.1 h
  obtain ⟨_, -, h⟩ := bind_eq_ok.1 h
  obtain ⟨⟨v, _⟩, here, h⟩ := bind_eq_ok.1 h
  cases h
  refine ⟨kept.1.insertMember, fun m mem => ?_⟩
  rcases mem_insertMember mem with rfl | mem
  · exact values _ _ _ here
  · exact kept.2 m mem

theorem ordered_of_read {depth : Nat} {cs rest : List Char} {v : Value}
    (h : read depth cs = .ok (v, rest)) : Ordered depth v := by
  induction depth using Nat.strongRecOn generalizing cs rest v with
  | _ depth ih =>
    unfold read at h
    split at h
    · obtain ⟨_, -, h⟩ := bind_eq_ok.1 h
      cases h
      exact .null
    · obtain ⟨_, -, h⟩ := bind_eq_ok.1 h
      cases h
      exact .bool
    · obtain ⟨_, -, h⟩ := bind_eq_ok.1 h
      cases h
      exact .bool
    · obtain ⟨_, -, h⟩ := bind_eq_ok.1 h
      cases h
      exact .string
    · split at h
      · cases h
      · rename_i depth
        obtain ⟨⟨items, _⟩, inner, h⟩ := bind_eq_ok.1 h
        cases h
        exact .array (forall_of_readItems (fun _ _ _ => ih depth (Nat.lt_succ_self _)) inner)
    · split at h
      · cases h
      · rename_i depth
        obtain ⟨⟨members, _⟩, inner, h⟩ := bind_eq_ok.1 h
        cases h
        have kept : Ascending members ∧ ∀ m ∈ members, Ordered depth m.2 :=
          of_readMembers (fun _ _ _ _ kept here =>
            ordered_of_readMember (fun _ _ _ => ih depth (Nat.lt_succ_self _)) kept here)
            ⟨List.Pairwise.nil, nofun⟩ inner
        exact .object kept.1 kept.2
    · obtain ⟨_, -, h⟩ := bind_eq_ok.1 h
      cases h
      exact .number

theorem ordered_of_ofText {text : String} {v : Value} (h : ofText text = .ok v) :
    Ordered maxDepth v := by
  obtain ⟨⟨v', rest⟩, here, h⟩ := bind_eq_ok.1 h
  dsimp only at h
  split at h
  · cases h
    exact ordered_of_read here
  · cases h

end Value

/-! ## Whole numbers -/

/-- A whole number of at most 64 bits. The negative zero among these is kept as a binary
magnitude. -/
def Number.IsWhole : Number → Prop
  | .natural n => n < Nat.pow 2 64
  | .negative n => 0 < n ∧ n ≤ Nat.pow 2 63
  | .binary minus x => minus = true ∧ x = .zero

instance : DecidablePred Number.IsWhole
  | .natural n => inferInstanceAs (Decidable (n < Nat.pow 2 64))
  | .negative n => inferInstanceAs (Decidable (0 < n ∧ n ≤ Nat.pow 2 63))
  | .binary minus x => inferInstanceAs (Decidable (minus = true ∧ x = .zero))

/-- The negative zero is written with a point. -/
theorem readNumber_negativeZero {rest : List Char} (ended : Ended rest) :
    readNumber true ('0' :: '.' :: '0' :: rest) = .ok (.binary true .zero, rest) := by
  have digits : ('0' :: rest).takeWhile Char.isDigit = ['0'] := takeWhile_isDigit ended 0
  have fraction : readFraction? 0 ('.' :: '0' :: rest) = .ok (some (0, 1), rest) := by
    rw [readFraction?, digits]
    rfl
  have value : scaled? 0 (0 + Int.ofNat 0 - Int.ofNat 1) = .ok .zero := by
    have shrunk : shrink .zero 1 = .zero := by
      rw [shrink, if_pos (by decide)]
      decide +kernel
    show Except.ok (shrink .zero 1) = _
    rw [shrunk]
  have whole : ('0' :: '.' :: '0' :: rest).takeWhile Char.isDigit = ['0'] := rfl
  unfold readNumber
  rw [whole]
  dsimp only
  rw [if_neg (by decide)]
  exact bind_eq_ok.2 ⟨_, fraction, bind_eq_ok.2 ⟨_, readExponent?_of_ended ended,
    bind_eq_ok.2 ⟨_, value, rfl⟩⟩⟩

/-- The text of a whole number is read as that number. -/
theorem readSigned_render {n : Number} (whole : n.IsWhole) {rest : List Char} (ended : Ended rest) :
    readSigned (n.render.toList ++ rest) = .ok (n, rest) := by
  cases n with
  | natural n =>
    have text : (Number.natural n).render.toList = Nat.toDigits 10 n := Nat.toList_repr
    have read : readNumber false (Nat.toDigits 10 n ++ rest) = .ok (.natural n, rest) :=
      readNumber_toDigits false whole ended
    rcases digits : Nat.toDigits 10 n with _ | ⟨c, cs⟩
    · exact absurd digits Nat.toDigits_ne_nil
    have digit : c.isDigit = true := isDigit_of_mem_toDigits c (digits ▸ List.mem_cons_self)
    rw [text]
    rw [digits, List.cons_append] at read ⊢
    rw [readSigned_of_isDigit digit, read]
  | negative n =>
    obtain ⟨positive, few⟩ := whole
    have text : (Number.negative n).render.toList = '-' :: Nat.toDigits 10 n := by
      have digits : (toString n).toList = Nat.toDigits 10 n := Nat.toList_repr
      rw [Number.render, String.toList_append, digits]
      rfl
    have kept : wholeNumber true n = .negative n := by
      rw [wholeNumber, if_neg (by decide), if_neg (by omega)]
    have fits : n < Nat.pow 2 64 := Nat.lt_of_le_of_lt few (by decide)
    rw [text, List.cons_append, readSigned, readNumber_toDigits true fits ended, kept]
  | binary minus x =>
    obtain ⟨rfl, rfl⟩ := whole
    have text : (Number.binary true .zero).render.toList = ['-', '0', '.', '0'] := by decide
    rw [text]
    exact readNumber_negativeZero ended

theorem Number.exists_render (n : Number) (whole : n.IsWhole) :
    ∃ c cs, n.render.toList = c :: cs ∧ (c = '-' ∨ c.isDigit = true) := by
  cases n with
  | natural n =>
    have text : (Number.natural n).render.toList = Nat.toDigits 10 n := Nat.toList_repr
    rcases digits : Nat.toDigits 10 n with _ | ⟨c, cs⟩
    · exact absurd digits Nat.toDigits_ne_nil
    · exact ⟨c, cs, text.trans digits,
        .inr (isDigit_of_mem_toDigits c (digits ▸ List.mem_cons_self))⟩
  | negative n => exact ⟨'-', _, String.toList_append, .inl rfl⟩
  | binary minus x =>
    obtain ⟨rfl, rfl⟩ := whole
    exact ⟨'-', _, String.toList_append, .inl rfl⟩

/-! ## What is written -/

namespace Value

mutual

/-- The numbers in a value, at any depth. -/
def numbers : Value → List Number
  | .number n => [n]
  | .array items => numbersOfItems items
  | .object members => numbersOfMembers members
  | _ => []

/-- The numbers in items. -/
def numbersOfItems : List Value → List Number
  | [] => []
  | v :: rest => v.numbers ++ numbersOfItems rest

/-- The numbers in the values of members. -/
def numbersOfMembers : List (String × Value) → List Number
  | [] => []
  | (_, v) :: rest => v.numbers ++ numbersOfMembers rest

end

theorem mem_numbersOfItems {items : List Value} {v : Value} (mem : v ∈ items) {n : Number}
    (there : n ∈ v.numbers) : n ∈ numbersOfItems items := by
  induction items with
  | nil => cases mem
  | cons w rest ih =>
    rw [numbersOfItems]
    rcases List.mem_cons.1 mem with rfl | mem
    · exact List.mem_append_left _ there
    · exact List.mem_append_right _ (ih mem)

theorem mem_numbersOfMembers {members : List (String × Value)} {m : String × Value}
    (mem : m ∈ members) {n : Number} (there : n ∈ m.2.numbers) :
    n ∈ numbersOfMembers members := by
  induction members with
  | nil => cases mem
  | cons d rest ih =>
    obtain ⟨name, v⟩ := d
    rw [numbersOfMembers]
    rcases List.mem_cons.1 mem with rfl | mem
    · exact List.mem_append_left _ there
    · exact List.mem_append_right _ (ih mem)

theorem writeItems_eq : (items : List Value) → writeItems items = joinCommas (items.map write)
  | [] => rfl
  | [_] => rfl
  | v :: w :: rest => by
    rw [writeItems, writeItems_eq (w :: rest)]
    rfl

/-- The text of a member behind the opening quote of its name. -/
def writeMember (m : String × Value) : List Char :=
  m.1.toList.flatMap escape ++ '"' :: ':' :: m.2.write

theorem writeMembers_eq : (members : List (String × Value)) →
    writeMembers members = joinCommas (members.map fun m => '"' :: writeMember m)
  | [] => rfl
  | [(name, v)] => by simp [writeMembers, joinCommas, writeMember, writeString]
  | (name, v) :: m :: rest => by
    rw [writeMembers, writeMembers_eq (m :: rest)]
    simp [joinCommas, writeMember, writeString]

/-- Values without a type, as they are read and written. -/
def codec : Codec Value := ⟨read, write⟩

variable {levels : Nat}

theorem restores_number {n : Number} (whole : n.IsWhole) : codec.Restores levels (.number n) := by
  obtain ⟨c, cs, text, starts⟩ := n.exists_render whole
  have opens : Opens c := starts.elim (fun minus => minus ▸ by decide) opens_of_isDigit
  refine ⟨⟨c, cs, text, opens⟩, fun depth _ rest ended => ?_⟩
  have other {d : Char} (sign : d ≠ '-') (noDigit : d.isDigit = false) : c ≠ d := by
    rintro rfl
    exact starts.elim sign fun digit => Bool.false_ne_true (noDigit.symm.trans digit)
  have number := readSigned_render whole ended
  show read depth (n.render.toList ++ rest) = _
  rw [text, List.cons_append] at number ⊢
  unfold read
  rw [skipBlank_of_opens opens]
  split
  -- The last case is a number; all others begin with a character that no number begins with.
  case h_7 =>
    rw [number]
    rfl
  all_goals
    rename_i same
    exact absurd (List.cons.inj same).1 (other (by decide) rfl)

theorem restores_string (s : String) : codec.Restores levels (.string s) where
  opens := ⟨'"', _, rfl, by decide⟩
  read depth _ rest _ := by
    have text : write (.string s) ++ rest = '"' :: (s.toList.flatMap escape ++ '"' :: rest) := by
      simp [write, writeString]
    show read depth (write (.string s) ++ rest) = _
    rw [text]
    unfold read
    show (readString _ >>= fun (p : List Char × List Char) =>
      Except.ok (Value.string (String.ofList p.1), p.2)) = _
    rw [readString_append]
    show Except.ok (Value.string (String.ofList s.toList), rest) = _
    rw [String.ofList_toList]

theorem restores_array {items : List Value} (h : ∀ v ∈ items, codec.Restores levels v) :
    codec.Restores (levels + 1) (.array items) where
  opens := ⟨'[', _, rfl, by decide⟩
  read depth enough rest ended := by
    have listed := (Codec.Restores.list h).read depth enough rest ended
    have text : write (.array items) = codec.list.write items := by
      rw [write, writeItems_eq]
      rfl
    obtain ⟨depth, rfl⟩ : ∃ n, depth = n + 1 := ⟨depth - 1, by omega⟩
    show (codec.list.read (depth + 1) (write (.array items) ++ rest) >>= fun p =>
      Except.ok (Value.array p.1, p.2)) = _
    rw [text, listed]
    rfl

theorem readMember_writeMember {depth : Nat} (enough : levels ≤ depth) {m : String × Value}
    (h : codec.Restores levels m.2) (members : List (String × Value)) {rest : List Char}
    (ended : Ended rest) : readMember depth members (writeMember m ++ rest) =
      .ok (insertMember m.1 m.2 members, rest) := by
  have value : read depth (m.2.write ++ rest) = .ok (m.2, rest) := h.read depth enough rest ended
  have text : writeMember m ++ rest =
      m.1.toList.flatMap escape ++ '"' :: ':' :: (m.2.write ++ rest) := by
    simp [writeMember]
  unfold readMember
  rw [text, readString_append]
  show (read depth (m.2.write ++ rest) >>= fun (p : Value × List Char) =>
    Except.ok (insertMember (String.ofList m.1.toList) p.1 members, p.2)) = _
  rw [value, String.ofList_toList]
  rfl

theorem restores_object {members : List (String × Value)} (ascending : Ascending members)
    (h : ∀ m ∈ members, codec.Restores levels m.2) :
    codec.Restores (levels + 1) (.object members) where
  opens := ⟨'\x7b', _, rfl, by decide⟩
  read depth enough rest _ := by
    obtain ⟨depth, rfl⟩ : ∃ n, depth = n + 1 := ⟨depth - 1, by omega⟩
    let parts := members.map fun m => '"' :: writeMember m
    have text : write (.object members) ++ rest =
        '\x7b' :: (joinCommas parts ++ '\x7d' :: rest) := by
      rw [write, writeMembers_eq]
      simp [parts]
    have steps : members.length < (joinCommas parts ++ '\x7d' :: rest).length + 1 := by
      have fits : parts.length ≤ (joinCommas parts).length :=
        length_le_joinCommas fun part mem => by
          obtain ⟨m, -, rfl⟩ := List.mem_map.1 mem
          exact List.cons_ne_nil _ _
      rw [List.length_map] at fits
      rw [List.length_append]
      omega
    have reads : ∀ m ∈ members, ∀ found rest, Ended rest →
        readMember depth found (writeMember m ++ rest) =
          .ok (insertMember m.1 m.2 found, rest) := fun m mem found _ ended =>
      readMember_writeMember (Nat.le_of_succ_le_succ enough) (h m mem) found ended
    have merged : members.foldl (fun found m => insertMember m.1 m.2 found) [] = members :=
      foldl_insertMember members ascending
    have inner := readMembers_written reads steps true [] rest
    rw [merged] at inner
    show read (depth + 1) (write (.object members) ++ rest) = _
    rw [text]
    show (readMembers (readMember depth) _ true [] (joinCommas parts ++ '\x7d' :: rest) >>=
      fun p => Except.ok (Value.object p.1, p.2)) = _
    rw [show joinCommas parts = remaining true parts from rfl] at inner ⊢
    rw [inner]
    rfl

/-- A value in order is restored from its text if its numbers are whole. -/
theorem restores {v : Value} (ordered : Ordered levels v) (whole : ∀ n ∈ v.numbers, n.IsWhole) :
    codec.Restores levels v := by
  induction ordered with
  | null => exact ⟨⟨'n', _, rfl, by decide⟩, fun depth _ _ _ => by cases depth <;> rfl⟩
  | @bool _ b =>
    cases b with
    | false => exact ⟨⟨'f', _, rfl, by decide⟩, fun depth _ _ _ => by cases depth <;> rfl⟩
    | true => exact ⟨⟨'t', _, rfl, by decide⟩, fun depth _ _ _ => by cases depth <;> rfl⟩
  | number => exact restores_number (whole _ (List.mem_singleton.2 rfl))
  | string => exact restores_string _
  | array _ ih =>
    exact restores_array fun v mem => ih v mem fun n there => whole n (mem_numbersOfItems mem there)
  | object ascending _ ih =>
    exact restores_object ascending fun m mem => ih m mem fun n there =>
      whole n (mem_numbersOfMembers mem there)

/-- The value a text stands for is the value its own text stands for, if its numbers are whole. -/
theorem ofText_toText {text : String} {v : Value} (h : ofText text = .ok v)
    (whole : ∀ n ∈ v.numbers, n.IsWhole) : ofText v.toText = .ok v :=
  (restores (ordered_of_ofText h) whole).ofText_toText (Nat.le_refl _)

example : (do return (← ofText (← ofText "3000e22").toText).toText) = .ok "3.0000000000000005e+25" ∧
    (ofText "3000e22").map toText = .ok "3e+25" := by decide +kernel

end Value

end Chaumian.Json
