import SeedScript.Proofs.Json.Items

/-!
# Values as they are read

By induction on the depth the reader of values reads the texts of the grammar and no others
(`reads_value`), and so do the readers of objects and of arrays of objects (`reads_objectValue`,
`reads_objectsValue`). A value is read back from the text that it is written as
(`Value.document_text`), and the values within the limits of the reader are all that it can read
from any text (`Value.exists_document_iff`).
-/

namespace SeedScript.Json

variable {α : Type}

/-! ## Values of every depth -/

theorem afterWord_eq_ok_iff {word cs rest : List Char} :
    afterWord word cs = .ok rest ↔ cs = word ++ rest := by
  induction word generalizing cs with
  | nil =>
    rw [afterWord, Except.ok.injEq]
    rfl
  | cons c word ih =>
    cases cs with
    | nil => simp [afterWord]
    | cons d cs =>
      rw [afterWord, List.cons_append, List.cons.injEq, ← ih]
      by_cases hd : d = c
      · simp [hd]
      · simp [hd]

theorem map_afterWord_eq_ok_iff {word cs rest : List Char} {a b : α} :
    ((afterWord word cs).map fun rest => (a, rest)) = .ok (b, rest) ↔
      a = b ∧ cs = word ++ rest := by
  rw [map_eq_ok_iff, ← afterWord_eq_ok_iff]
  constructor
  · rintro ⟨rest', hword, heq⟩
    cases heq
    exact ⟨rfl, hword⟩
  · rintro ⟨rfl, hword⟩
    exact ⟨rest, hword, rfl⟩

/-! ### First characters -/

section FirstCharacters

variable (depth : Nat) (cs : List Char)

theorem value_null : value depth ('n' :: cs) =
    (afterWord "ull".toList cs).map fun rest => (.null, rest) := by
  rw [value.eq_def]
  rfl

theorem value_true : value depth ('t' :: cs) =
    (afterWord "rue".toList cs).map fun rest => (.boolean true, rest) := by
  rw [value.eq_def]
  rfl

theorem value_false : value depth ('f' :: cs) =
    (afterWord "alse".toList cs).map fun rest => (.boolean false, rest) := by
  rw [value.eq_def]
  rfl

theorem value_string : value depth ('"' :: cs) =
    (Json.string cs).map fun p => (.string p.1, p.2) := by
  rw [value.eq_def]
  rfl

theorem value_array : value (depth + 1) ('[' :: cs) =
    (items (value depth) cs).map fun p => (.array p.1, p.2) := by
  rw [value.eq_def]
  rfl

theorem value_object : value (depth + 1) ('\x7b' :: cs) =
    (members (addMember (value depth)) [] cs).map fun p => (.object p.1, p.2) := by
  rw [value.eq_def]
  rfl

end FirstCharacters

theorem exists_cons_of_spellsNumber {text : List Char} {n : Number} (h : SpellsNumber text n) :
    ∃ c tail, text = c :: tail ∧ (c = '-' ∨ ∃ d, c = digitChar d) := by
  obtain ⟨fraction, exponent, hwhole, -, -, rfl⟩ := h
  obtain ⟨d, ds, hds⟩ := List.exists_cons_of_ne_nil hwhole.1
  rw [hds]
  cases n.negative with
  | true => exact ⟨'-', _, rfl, .inl rfl⟩
  | false => exact ⟨digitChar d, _, rfl, .inr ⟨d, rfl⟩⟩

theorem value_eq_number {c : Char} (hc : c = '-' ∨ ∃ d, c = digitChar d) (depth : Nat)
    (cs : List Char) :
    value depth (c :: cs) = (number (c :: cs)).map fun p => (.number p.1, p.2) := by
  have hdigits : ∀ d, digitChar d ≠ 'n' ∧ digitChar d ≠ 't' ∧ digitChar d ≠ 'f' ∧
      digitChar d ≠ '"' ∧ (digitChar d).isDigit = true := by decide
  have hother : c ≠ 'n' ∧ c ≠ 't' ∧ c ≠ 'f' ∧ c ≠ '"' ∧ (c = '-' ∨ c.isDigit = true) := by
    rcases hc with rfl | ⟨d, rfl⟩
    · decide
    · have hd := hdigits d
      tauto
  rw [value.eq_def]
  dsimp only
  rw [if_neg hother.1, if_neg hother.2.1, if_neg hother.2.2.1, if_neg hother.2.2.2.1,
    if_pos hother.2.2.2.2]

/-- The texts of a value whose numbers are in range. -/
abbrev Value.SpellsInRange (depth : Nat) : List Char → Value → Prop :=
  Value.Spells (fun n => n.inRange = true) depth

section Value

variable {depth : Nat} {text cs rest : List Char} {v : Value}

def Value.string? : Value → Option String
  | .string s => some s
  | _ => none

def Value.boolean? : Value → Option Bool
  | .boolean b => some b
  | _ => none

/-- A value begins neither with a blank nor with the end of an array. Only a string begins with a
quote, and only a boolean with the letter of one. -/
theorem Value.Spells.exists_cons {accepts : Number → Prop} (h : v.Spells accepts depth text) :
    ∃ c tail, text = c :: tail ∧ (isBlank c = false ∧ c ≠ ']') ∧ (v.string? = none → c ≠ '"') ∧
      (v.boolean? = none → c ≠ 't' ∧ c ≠ 'f') := by
  cases v with
  | null =>
    rw [Spells] at h
    exact ⟨'n', _, h, by decide, by decide, by decide⟩
  | boolean b =>
    rw [Spells] at h
    cases b with
    | true => exact ⟨'t', _, h, by decide, by decide, (by cases ·)⟩
    | false => exact ⟨'f', _, h, by decide, by decide, (by cases ·)⟩
  | number n =>
    rw [Spells] at h
    obtain ⟨c, tail, rfl, rfl | ⟨d, rfl⟩⟩ := exists_cons_of_spellsNumber h.1
    · exact ⟨'-', tail, rfl, by decide, fun _ => by decide, fun _ => by decide⟩
    · have hdigits : ∀ d, (isBlank (digitChar d) = false ∧ digitChar d ≠ ']') ∧
          digitChar d ≠ '"' ∧ digitChar d ≠ 't' ∧ digitChar d ≠ 'f' := by decide
      obtain ⟨hbegins, hquote, hletters⟩ := hdigits d
      exact ⟨digitChar d, tail, rfl, hbegins, fun _ => hquote, fun _ => hletters⟩
  | string s =>
    rw [Spells] at h
    obtain ⟨body, -, rfl⟩ := h
    exact ⟨'"', _, rfl, by decide, (by cases ·), fun _ => by decide⟩
  | array vs =>
    cases depth with
    | zero => exact h.elim
    | succ depth =>
      obtain ⟨body, -, rfl⟩ := h
      exact ⟨'[', _, rfl, by decide, fun _ => by decide, fun _ => by decide⟩
  | object ms =>
    cases depth with
    | zero => exact h.elim
    | succ depth =>
      obtain ⟨body, -, rfl⟩ := h
      exact ⟨'\x7b', _, rfl, by decide, fun _ => by decide, fun _ => by decide⟩

theorem Value.Spells.begins {accepts : Number → Prop} (h : v.Spells accepts depth text) :
    BeginsValue text := by
  obtain ⟨c, tail, rfl, ⟨hblank, hclose⟩, -⟩ := h.exists_cons
  exact ⟨c, tail, rfl, hblank, hclose⟩

theorem Value.Spells.of_value
    (hparts : ∀ inner < depth, (value inner).Reads (Value.SpellsInRange inner))
    (h : value depth cs = .ok (v, rest)) :
    ∃ text, v.SpellsInRange depth text ∧ cs = text ++ rest := by
  cases cs with
  | nil =>
    rw [value.eq_def] at h
    cases h
  | cons c cs => ?_
  rw [value.eq_def] at h
  dsimp only at h
  split_ifs at h with hn ht hf hq hnumber hbracket hbrace
  · obtain ⟨rfl, rfl⟩ := map_afterWord_eq_ok_iff.1 h
    exact ⟨"null".toList, by rw [SpellsInRange, Spells], by rw [hn]; rfl⟩
  · obtain ⟨rfl, rfl⟩ := map_afterWord_eq_ok_iff.1 h
    exact ⟨"true".toList, by rw [SpellsInRange, Spells]; rfl, by rw [ht]; rfl⟩
  · obtain ⟨rfl, rfl⟩ := map_afterWord_eq_ok_iff.1 h
    exact ⟨"false".toList, by rw [SpellsInRange, Spells]; rfl, by rw [hf]; rfl⟩
  · obtain ⟨⟨s, rest'⟩, hstring, heq⟩ := map_eq_ok_iff.1 h
    cases heq
    obtain ⟨body, hbody, rfl⟩ := string_eq_ok_iff.1 hstring
    refine ⟨'"' :: (body ++ ['"']), ?_, by rw [hq]; simp⟩
    rw [SpellsInRange, Spells]
    exact ⟨body, hbody, rfl⟩
  · obtain ⟨⟨n, rest'⟩, hread, heq⟩ := map_eq_ok_iff.1 h
    cases heq
    obtain ⟨text, htext, hrange, hcs⟩ := SpellsNumber.of_number hread
    refine ⟨text, ?_, hcs⟩
    rw [SpellsInRange, Spells]
    exact ⟨htext, hrange⟩
  · cases depth with
    | zero => cases h
    | succ depth =>
      obtain ⟨⟨vs, rest'⟩, hitems, heq⟩ := map_eq_ok_iff.1 h
      cases heq
      obtain ⟨body, hbody, rfl⟩ := (hparts depth (Nat.lt_succ_self depth)).items_eq_ok_iff.1 hitems
      exact ⟨'[' :: (body ++ [']']), ⟨body, hbody, rfl⟩, by rw [hbracket]; simp⟩
  · cases depth with
    | zero => cases h
    | succ depth =>
      obtain ⟨⟨ms, rest'⟩, hmembers, heq⟩ := map_eq_ok_iff.1 h
      cases heq
      obtain ⟨body, hbody, rfl⟩ :=
        (hparts depth (Nat.lt_succ_self depth)).members_eq_ok_iff.1 hmembers
      exact ⟨'\x7b' :: (body ++ ['\x7d']), ⟨body, hbody, rfl⟩, by rw [hbrace]; simp⟩

theorem Value.Spells.value_append
    (hparts : ∀ inner < depth, (value inner).Reads (Value.SpellsInRange inner))
    (h : v.SpellsInRange depth text) (hends : EndsValue rest) :
    value depth (text ++ rest) = .ok (v, rest) := by
  cases v with
  | null =>
    rw [SpellsInRange, Spells] at h
    subst h
    exact (value_null depth _).trans (map_afterWord_eq_ok_iff.2 ⟨rfl, rfl⟩)
  | boolean b =>
    rw [SpellsInRange, Spells] at h
    subst h
    cases b with
    | true => exact (value_true depth _).trans (map_afterWord_eq_ok_iff.2 ⟨rfl, rfl⟩)
    | false => exact (value_false depth _).trans (map_afterWord_eq_ok_iff.2 ⟨rfl, rfl⟩)
  | number n =>
    rw [SpellsInRange, Spells] at h
    have hread := h.1.number_append h.2 hends.stopsNumber
    obtain ⟨c, tail, rfl, hc⟩ := exists_cons_of_spellsNumber h.1
    rw [List.cons_append] at hread ⊢
    rw [value_eq_number hc, hread]
    rfl
  | string s =>
    rw [SpellsInRange, Spells] at h
    obtain ⟨body, hbody, rfl⟩ := h
    have hread : Json.string (body ++ '"' :: rest) = .ok (s, rest) :=
      string_eq_ok_iff.2 ⟨body, hbody, rfl⟩
    rw [List.cons_append, List.append_assoc, List.singleton_append, value_string, hread]
    rfl
  | array vs =>
    cases depth with
    | zero => exact h.elim
    | succ depth =>
      obtain ⟨body, hbody, rfl⟩ := h
      have hread : items (value depth) (body ++ ']' :: rest) = .ok (vs, rest) :=
        (hparts depth (Nat.lt_succ_self depth)).items_eq_ok_iff.2 ⟨body, hbody, rfl⟩
      rw [List.cons_append, List.append_assoc, List.singleton_append, value_array, hread]
      rfl
  | object ms =>
    cases depth with
    | zero => exact h.elim
    | succ depth =>
      obtain ⟨body, hbody, rfl⟩ := h
      have hread : members (addMember (value depth)) [] (body ++ '\x7d' :: rest) = .ok (ms, rest) :=
        (hparts depth (Nat.lt_succ_self depth)).members_eq_ok_iff.2 ⟨body, hbody, rfl⟩
      rw [List.cons_append, List.append_assoc, List.singleton_append, value_object, hread]
      rfl

theorem reads_value (depth : Nat) : (value depth).Reads (Value.SpellsInRange depth) := by
  induction depth using Nat.strong_induction_on with
  | h depth ih =>
    exact ⟨fun h => h.begins, fun h => Value.Spells.of_value ih h, fun h => h.value_append ih⟩

end Value

/-! ## Whole texts -/

theorem reads_objectValue (depth : Nat) :
    (objectValue depth).Reads (SpellsObject (Value.SpellsInRange depth)) where
  begins := by
    rintro _ ms ⟨body, -, rfl⟩
    exact ⟨'\x7b', _, rfl, by decide, by decide⟩
  of_read := by
    intro cs ms rest h
    unfold objectValue at h
    split at h
    · obtain ⟨body, hbody, rfl⟩ := (reads_value depth).members_eq_ok_iff.1 h
      exact ⟨'\x7b' :: (body ++ ['\x7d']), ⟨body, hbody, rfl⟩, by simp⟩
    · cases h
  read_append := by
    rintro _ ms rest ⟨body, hbody, rfl⟩ -
    rw [List.cons_append, List.append_assoc]
    exact (reads_value depth).members_eq_ok_iff.2 ⟨body, hbody, rfl⟩

def SpellsObjects : List Char → List (List (String × Value)) → Prop :=
  SpellsArray (SpellsObject (Value.SpellsInRange (maxDepth - 2)))

theorem reads_objectsValue : objectsValue.Reads SpellsObjects where
  begins := by
    rintro _ objects ⟨body, -, rfl⟩
    exact ⟨'[', _, rfl, by decide, by decide⟩
  of_read := by
    intro cs objects rest h
    unfold objectsValue at h
    split at h
    · obtain ⟨body, hbody, rfl⟩ := (reads_objectValue (maxDepth - 2)).items_eq_ok_iff.1 h
      exact ⟨'[' :: (body ++ [']']), ⟨body, hbody, rfl⟩, by simp⟩
    · cases h
  read_append := by
    rintro _ objects rest ⟨body, hbody, rfl⟩ -
    rw [List.cons_append, List.append_assoc]
    exact (reads_objectValue (maxDepth - 2)).items_eq_ok_iff.2 ⟨body, hbody, rfl⟩

/-- A value is read back from the text that it is written as. -/
theorem Value.document_text {v : Value}
    (h : v.Within (fun n => n.inRange = true) maxDepth) :
    document (value maxDepth) v.text = .ok v := by
  refine (reads_value maxDepth).document_eq_ok_iff.2 (padded_self ?_)
  rw [Value.text, String.toList_ofList]
  exact spells_chars h

/-- The values that can be read are those within the limits of the reader. -/
theorem Value.exists_document_iff {v : Value} :
    (∃ text, document (value maxDepth) text = .ok v) ↔
      v.Within (fun n => n.inRange = true) maxDepth := by
  refine ⟨?_, fun h => ⟨v.text, document_text h⟩⟩
  rintro ⟨text, hread⟩
  obtain ⟨before, core, after, -, -, hcore, -⟩ := (reads_value maxDepth).document_eq_ok_iff.1 hread
  exact exists_spells_iff.1 ⟨core, hcore⟩

/-- A text of an array of objects is read where nothing else may stand. -/
theorem document_objectsValue {text : String} {objects : List (List (String × Value))}
    (h : document (value maxDepth) text = .ok (.array (objects.map .object))) :
    document objectsValue text = .ok objects := by
  obtain ⟨before, _, after, hbefore, hafter, ⟨body, hbody, rfl⟩, htext⟩ :=
    (reads_value maxDepth).document_eq_ok_iff.1 h
  have hobjects : SpellsItems (SpellsObject (Value.SpellsInRange (maxDepth - 2))) body objects :=
    hbody.of_map
  exact reads_objectsValue.document_eq_ok_iff.2
    ⟨before, _, after, hbefore, hafter, ⟨body, hobjects, rfl⟩, htext⟩

end SeedScript.Json
