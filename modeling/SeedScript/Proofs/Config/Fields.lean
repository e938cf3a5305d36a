import SeedScript.Config.Json
import SeedScript.Proofs.Json.Values

/-!
# Fields of a configuration

Each member of the object sets one field, or is refused (`Config.takesSteps_readMember`). So any of
the fields of a configuration, in any order, are read back, with the standard values for the others,
and what is read is then tested; a repeated field and one of another name are refused before
(`Config.ofJson_exact`).
-/

namespace SeedScript

open Json (Value Reader)

/-! ## Strings and booleans in a text -/

namespace Json

variable {accepts : Number → Prop} {depth : Nat} {core rest : List Char} {v : Value}

/-- In the place of a string the text of a value is read when it is a string. -/
theorem Value.Spells.toOption_stringValue (h : v.Spells accepts depth core) :
    (stringValue (core ++ rest)).toOption = v.string?.map (·, rest) := by
  cases hv : v.string? with
  | none =>
    obtain ⟨c, tail, rfl, -, hquote, -⟩ := h.exists_cons
    rw [List.cons_append]
    unfold stringValue
    split
    · rename_i heq
      exact absurd (List.cons_eq_cons.1 heq).1 (hquote hv)
    · rfl
  | some s =>
    cases v with
    | string s' =>
      obtain rfl : s' = s := Option.some.inj hv
      rw [Spells] at h
      obtain ⟨body, hbody, rfl⟩ := h
      have hread : Json.string (body ++ '"' :: rest) = .ok (s', rest) :=
        string_eq_ok_iff.2 ⟨body, hbody, rfl⟩
      rw [List.cons_append, List.append_assoc, List.singleton_append, stringValue, hread]
      rfl
    | _ => cases hv

/-- In the place of a boolean the text of a value is read when it is a boolean. -/
theorem Value.Spells.toOption_booleanValue (h : v.Spells accepts depth core) :
    (booleanValue (core ++ rest)).toOption = v.boolean?.map (·, rest) := by
  cases hv : v.boolean? with
  | none =>
    obtain ⟨c, tail, rfl, -, -, hletters⟩ := h.exists_cons
    rw [List.cons_append]
    unfold booleanValue
    split
    · rename_i heq
      exact absurd (List.cons_eq_cons.1 heq).1 (hletters hv).1
    · rename_i heq
      exact absurd (List.cons_eq_cons.1 heq).1 (hletters hv).2
    · rfl
  | some b =>
    cases v with
    | boolean b' =>
      obtain rfl : b' = b := Option.some.inj hv
      rw [Spells] at h
      subst h
      refine toOption_eq_some_iff.2 ?_
      cases b' with
      | true =>
        show booleanValue ('t' :: ("rue".toList ++ rest)) = _
        rw [booleanValue]
        exact map_afterWord_eq_ok_iff.2 ⟨rfl, rfl⟩
      | false =>
        show booleanValue ('f' :: ("alse".toList ++ rest)) = _
        rw [booleanValue]
        exact map_afterWord_eq_ok_iff.2 ⟨rfl, rfl⟩
    | _ => cases hv

/-- A whole text is read where only blanks are left, and is refused where its value is. -/
theorem toOption_document {α : Type} {read : Reader α} {text : String} {after : List Char}
    {a? : Option α} (hafter : Blanks after)
    (hread : (read (skipBlanks text.toList)).toOption = a?.map (·, after)) :
    (document read text).toOption = a? := by
  cases a? with
  | some a => exact toOption_eq_some_iff.2 (document_of_read hafter (toOption_eq_some_iff.1 hread))
  | none =>
    unfold document
    cases ha : read (skipBlanks text.toList) with
    | error fault => rfl
    | ok p =>
      rw [ha] at hread
      cases hread

end Json

/-! ## Fields -/

theorem ConfigField.ofName?_eq_some_iff {name : String} {field : ConfigField} :
    ofName? name = some field ↔ field.name = name := by
  constructor
  · intro h
    have hname := List.find?_some h
    exact eq_of_beq hname
  · rintro rfl
    rcases field with (_ | _ | _) | _ <;> rfl

theorem LiteralMode.ofStrict_isStrict (mode : LiteralMode) : ofStrict mode.isStrict = mode := by
  cases mode <;> rfl

theorem ConfigField.name_injective {field other : ConfigField} (h : field.name = other.name) :
    field = other := by
  have hfield := ofName?_eq_some_iff.2 h
  rw [ofName?_eq_some_iff.2 (rfl : other.name = other.name)] at hfield
  exact (Option.some.inj hfield).symm

namespace Config

variable {c d : Config} {field : ConfigField} {v : Value}

/-- A configuration with a field set to a value of its kind. -/
def setField? (c : Config) : ConfigField → Value → Option Config
  | .delimiter field, v => v.string?.map fun s => c.setDelimiter field s
  | .strict, v => v.boolean?.map fun b => { c with mode := .ofStrict b }

/-- A field is set to the value that it has in another configuration, and the others are kept. -/
theorem exists_setField? (c d : Config) (field : ConfigField) :
    ∃ d', d.setField? field (c.fieldValue field) = some d' ∧
      ∀ other, d'.fieldValue other =
        if other = field then c.fieldValue other else d.fieldValue other := by
  cases field with
  | delimiter field =>
    refine ⟨d.setDelimiter field (c.delimiter field), rfl, fun other => ?_⟩
    cases other with
    | delimiter other =>
      cases field <;> cases other <;> rfl
    | strict => cases field <;> rfl
  | strict =>
    refine ⟨{ d with mode := c.mode }, ?_, fun other => ?_⟩
    · show some { d with mode := LiteralMode.ofStrict c.mode.isStrict } = _
      rw [LiteralMode.ofStrict_isStrict]
    · cases other with
      | delimiter other => cases other <;> rfl
      | strict => rfl

theorem eq_of_fieldValue_eq (h : ∀ field, c.fieldValue field = d.fieldValue field) : c = d := by
  have hone : c.delimiters.oneToMany = d.delimiters.oneToMany :=
    Value.string.inj (h (.delimiter .oneToMany))
  have hmany : c.delimiters.manyToMany = d.delimiters.manyToMany :=
    Value.string.inj (h (.delimiter .manyToMany))
  have hitem : c.rowItemDelimiter = d.rowItemDelimiter := Value.string.inj (h (.delimiter .rowItem))
  have hstrict : c.mode.isStrict = d.mode.isStrict := Value.boolean.inj (h .strict)
  have hmode : c.mode = d.mode := by
    rw [← LiteralMode.ofStrict_isStrict c.mode, hstrict, LiteralMode.ofStrict_isStrict]
  obtain ⟨⟨one, many⟩, item, mode⟩ := c
  obtain ⟨⟨one', many'⟩, item', mode'⟩ := d
  simp only [Config.mk.injEq, Delimiters.mk.injEq]
  exact ⟨⟨hone, hmany⟩, hitem, hmode⟩

/-! ## Members -/

/-- A member sets the field of its name, if there is one that has not been set. -/
def step? (state : List ConfigField × Config) (m : String × Value) :
    Option (List ConfigField × Config) :=
  (ConfigField.ofName? m.1).bind fun field =>
    if field ∈ state.1 then none
    else (state.2.setField? field m.2).map fun c => (field :: state.1, c)

section Reading

variable {accepts : Json.Number → Prop} {depth : Nat} {core rest : List Char}
  {members : List (String × Value)}

theorem toOption_readField (h : v.Spells accepts depth core) :
    (c.readField field (core ++ rest)).toOption = (c.setField? field v).map (·, rest) := by
  cases field with
  | delimiter field =>
    rw [readField, toOption_map, h.toOption_stringValue, setField?]
    cases v.string? <;> rfl
  | strict =>
    rw [readField, toOption_map, h.toOption_booleanValue, setField?]
    cases v.boolean? <;> rfl

theorem takesSteps_readMember :
    Json.TakesSteps readMember (Value.Spells accepts depth) step? := by
  intro state m w w' core rest hw hw' hcore hends
  unfold readMember step?
  cases ConfigField.ofName? m.1 with
  | none => rfl
  | some field =>
    rw [Option.bind_some]
    dsimp only
    split_ifs with hread
    · rfl
    · rw [toOption_map, Json.afterColon_append hw hw' hcore.begins, toOption_readField hcore]
      cases state.2.setField? field m.2 <;> rfl

theorem toOption_document_read {text : String}
    (h : Json.Padded (Json.SpellsObject (Value.Spells accepts depth)) text.toList members) :
    (Json.document read text).toOption =
      (members.foldlM step? ([], standard)).map Prod.snd := by
  obtain ⟨before, _, after, hbefore, hafter, ⟨body, hbody, rfl⟩, htext⟩ := h
  have hmembers := takesSteps_readMember.toOption_members hbody ([], standard) after
  have hskip : Json.skipBlanks text.toList = '\x7b' :: (body ++ '\x7d' :: after) := by
    rw [htext, Json.skipBlanks_append hbefore]
    simp only [List.cons_append, List.append_assoc, List.nil_append]
    exact Json.skipBlanks_cons (by decide) _
  refine Json.toOption_document hafter ?_
  rw [hskip, read, toOption_map, hmembers]
  cases members.foldlM step? ([], standard) <;> rfl

end Reading

/-! ## Fields of a configuration in an object -/

/-- The members of an object with some fields of a configuration. -/
def membersOf (c : Config) (fields : List ConfigField) : List (String × Value) :=
  fields.map fun field => (field.name, c.fieldValue field)

/-- Fields that have not been set are set, each to its value, and the others are kept. -/
theorem exists_foldlM_membersOf (c : Config) {fields seen : List ConfigField}
    (hnodup : fields.Nodup) (hseen : ∀ field ∈ fields, field ∉ seen) (d : Config) :
    ∃ seen' d', (c.membersOf fields).foldlM step? (seen, d) = some (seen', d') ∧
      ∀ field, d'.fieldValue field =
        if field ∈ fields then c.fieldValue field else d.fieldValue field := by
  induction fields generalizing seen d with
  | nil => exact ⟨seen, d, rfl, fun field => rfl⟩
  | cons field fields ih =>
    obtain ⟨hnot, hnodup⟩ := List.nodup_cons.1 hnodup
    obtain ⟨d₁, hset, hd₁⟩ := exists_setField? c d field
    have hstep : step? (seen, d) (field.name, c.fieldValue field) = some (field :: seen, d₁) := by
      rw [step?, ConfigField.ofName?_eq_some_iff.2 rfl, Option.bind_some,
        if_neg (hseen field List.mem_cons_self), hset]
      rfl
    have hnew : ∀ other ∈ fields, other ∉ field :: seen := by
      intro other hother
      rw [List.mem_cons, not_or]
      exact ⟨fun heq => hnot (heq ▸ hother), hseen other (List.mem_cons_of_mem field hother)⟩
    obtain ⟨seen', d', hfold, hd'⟩ := ih hnodup hnew d₁
    refine ⟨seen', d', ?_, fun other => ?_⟩
    · rw [membersOf, List.map_cons, List.foldlM_cons, hstep]
      exact hfold
    · rw [hd', hd₁]
      by_cases hother : other ∈ fields
      · rw [if_pos hother, if_pos (List.mem_cons_of_mem field hother)]
      · rw [if_neg hother]
        refine if_congr ?_ rfl rfl
        rw [List.mem_cons, or_iff_left hother]

/-- Members that are all accepted are fields with different names, none of which had been set. -/
theorem names_of_foldlM {members : List (String × Value)} {state state' : List ConfigField × Config}
    (h : members.foldlM step? state = some state') :
    (members.map Prod.fst).Nodup ∧ ∀ m ∈ members, ∃ field ∉ state.1, field.name = m.1 := by
  induction members generalizing state with
  | nil => exact ⟨List.nodup_nil, fun m hm => by cases hm⟩
  | cons m members ih =>
    rw [List.foldlM_cons] at h
    obtain ⟨state₁, hstep, hfold⟩ := Option.bind_eq_some_iff.1 h
    obtain ⟨field, hname, hset⟩ := Option.bind_eq_some_iff.1 hstep
    rw [ConfigField.ofName?_eq_some_iff] at hname
    split_ifs at hset with hseen
    obtain ⟨c, -, rfl⟩ := Option.map_eq_some_iff.1 hset
    obtain ⟨hnodup, hnames⟩ := ih hfold
    have hnew : ∀ n ∈ members, ∃ other, other ≠ field ∧ other ∉ state.1 ∧ other.name = n.1 := by
      intro n hn
      obtain ⟨other, hother, heq⟩ := hnames n hn
      rw [List.mem_cons, not_or] at hother
      exact ⟨other, hother.1, hother.2, heq⟩
    refine ⟨?_, fun n hn => ?_⟩
    · rw [List.map_cons, List.nodup_cons]
      refine ⟨fun hmem => ?_, hnodup⟩
      obtain ⟨n, hn, heq⟩ := List.mem_map.1 hmem
      obtain ⟨other, hne, -, hother⟩ := hnew n hn
      exact hne (ConfigField.name_injective (hother.trans (heq.trans hname.symm)))
    · rcases List.mem_cons.1 hn with rfl | hn
      · exact ⟨field, hseen, hname⟩
      · obtain ⟨other, -, hother, heq⟩ := hnew n hn
        exact ⟨other, hother, heq⟩

/-! ## Texts -/

/-- A text spells an object with these members, with blanks around it. Their values nest to any
depth, and their numbers need not be in range. -/
def HoldsMembers (text : String) (members : List (String × Value)) : Prop :=
  ∃ depth, Json.Padded (Json.SpellsObject (Value.Spells (fun _ => True) depth)) text.toList members

theorem holdsMembers_text (depth : Nat) {members : List (String × Value)}
    (h : ∀ m ∈ members, m.2.Within (fun _ => True) depth) :
    HoldsMembers (Value.object members).text members := by
  refine ⟨depth, Json.padded_self ?_⟩
  rw [Value.text, String.toList_ofList]
  exact Json.spellsObject_chars fun m hm => Value.spells_chars (h m hm)

theorem holdsMembers_membersOf (c : Config) (fields : List ConfigField) :
    HoldsMembers (Value.object (c.membersOf fields)).text (c.membersOf fields) := by
  refine holdsMembers_text 0 fun m hm => ?_
  obtain ⟨field, -, rfl⟩ := List.mem_map.1 hm
  cases field <;> trivial

section Texts

variable {text : String} {members : List (String × Value)} {state : List ConfigField × Config}

theorem ofJson_of_foldlM (h : HoldsMembers text members)
    (hsteps : members.foldlM step? ([], standard) = some state) :
    ofJson text = state.2.validate.map fun () => state.2 := by
  obtain ⟨depth, htext⟩ := h
  have hread := toOption_document_read htext
  rw [hsteps] at hread
  rw [ofJson, toOption_eq_some_iff.1 hread]

theorem exists_fault_of_foldlM (h : HoldsMembers text members)
    (hsteps : members.foldlM step? ([], standard) = none) :
    ∃ fault, ofJson text = .error (.json fault) := by
  obtain ⟨depth, htext⟩ := h
  have hread := toOption_document_read htext
  rw [hsteps] at hread
  cases hdocument : Json.document read text with
  | ok c =>
    rw [hdocument] at hread
    cases hread
  | error fault => exact ⟨fault, by rw [ofJson, hdocument]⟩

/-- An object with a repeated field, or with one of another name, is refused as JSON. -/
theorem exists_fault_of_names (h : HoldsMembers text members)
    (hnames : ¬ (members.map Prod.fst).Nodup ∨
      ∃ m ∈ members, ∀ field : ConfigField, field.name ≠ m.1) :
    ∃ fault, ofJson text = .error (.json fault) := by
  refine exists_fault_of_foldlM h ?_
  cases hsteps : members.foldlM step? ([], standard) with
  | none => rfl
  | some state =>
    obtain ⟨hnodup, hfields⟩ := names_of_foldlM hsteps
    rcases hnames with hrepeated | ⟨m, hm, hother⟩
    · exact absurd hnodup hrepeated
    · obtain ⟨field, -, heq⟩ := hfields m hm
      exact absurd heq (hother field)

theorem ofJson_of_membersOf (c : Config) {fields : List ConfigField} (hfields : fields.Nodup) :
    ∃ d : Config, (∀ field, d.fieldValue field =
        if field ∈ fields then c.fieldValue field else standard.fieldValue field) ∧
      ∀ text, HoldsMembers text (c.membersOf fields) →
        ofJson text = d.validate.map fun () => d := by
  obtain ⟨seen, d, hsteps, hd⟩ :=
    exists_foldlM_membersOf c hfields (fun _ _ => List.not_mem_nil) standard
  exact ⟨d, hd, fun text htext => ofJson_of_foldlM htext hsteps⟩

end Texts

/-- A text of an object with any fields of a configuration, in any order, is read as the
configuration with these and the standard fields, when it is usable, and is refused with its fault
otherwise; the object may be written with any blanks and escapes. So a usable configuration is read
back from the text that it is written as. Whatever the values are, an object with a repeated field
or with one of another name is refused as JSON. -/
theorem ofJson_exact (c : Config) {fields : List ConfigField} (hfields : fields.Nodup) :
    (∃ d : Config, (∀ field ∈ fields, d.fieldValue field = c.fieldValue field) ∧
      (∀ field ∉ fields, d.fieldValue field = standard.fieldValue field) ∧
      ∀ text, HoldsMembers text (c.membersOf fields) →
        (d.Valid → ofJson text = .ok d) ∧
        ∀ fault, d.fault? = some fault → ofJson text = .error (.invalidConfig fault)) ∧
    HoldsMembers (Value.object (c.membersOf fields)).text (c.membersOf fields) ∧
    (c.Valid → ofJson c.json.text = .ok c) ∧
    ∀ members text, HoldsMembers text members →
      (¬ (members.map Prod.fst).Nodup ∨
        ∃ m ∈ members, ∀ field : ConfigField, field.name ≠ m.1) →
      ∃ fault, ofJson text = .error (.json fault) := by
  refine ⟨?_, holdsMembers_membersOf c fields, fun hvalid => ?_, fun members text =>
    exists_fault_of_names⟩
  · obtain ⟨d, hd, hread⟩ := ofJson_of_membersOf c hfields
    refine ⟨d, fun field hfield => ?_, fun field hfield => ?_, fun text htext => ⟨fun hvalid => ?_,
      fun fault hfault => ?_⟩⟩
    · rw [hd, if_pos hfield]
    · rw [hd, if_neg hfield]
    · rw [hread text htext, (validate_eq_ok_iff d).2 hvalid]
      rfl
    · rw [hread text htext, validate, hfault]
      rfl
  · have hnodup : ConfigField.all.Nodup := by decide
    obtain ⟨d, hd, hread⟩ := ofJson_of_membersOf c hnodup
    have hall : ∀ field, field ∈ ConfigField.all := by
      rintro ((_ | _ | _) | _) <;> decide
    obtain rfl : d = c := eq_of_fieldValue_eq fun field => by rw [hd, if_pos (hall field)]
    have hjson : ofJson d.json.text = d.validate.map fun () => d :=
      hread _ (holdsMembers_membersOf d ConfigField.all)
    rw [hjson, (validate_eq_ok_iff d).2 hvalid]
    rfl

/-- Delimiters with quotes, a backslash, a control character and letters beyond ASCII. The first is
usable with the second, but not with the standard one. -/
def awkward : Config := ⟨⟨"****", "é\"\n\\"⟩, "𝔘\x01", .strict⟩

theorem ofJson_exact_awkward :
    ofJson (Value.object (awkward.membersOf
        [.strict, .delimiter .rowItem, .delimiter .manyToMany])).text =
      .ok ⟨⟨"**", "é\"\n\\"⟩, "𝔘\x01", .strict⟩ ∧
    ofJson (Value.object (awkward.membersOf [.delimiter .oneToMany])).text =
      .error (.invalidConfig (.overlapping ⟨"****", "***"⟩)) ∧
    ofJson awkward.json.text = .ok awkward ∧
    ∃ fault, ofJson (Value.object (awkward.membersOf [.strict] ++ [("mode", .null)])).text =
      .error (.json fault) := by
  have hsome : [ConfigField.strict, .delimiter .rowItem, .delimiter .manyToMany].Nodup := by decide
  have hone : [ConfigField.delimiter .oneToMany].Nodup := by decide
  obtain ⟨⟨d, hd, hstandard, hread⟩, hholds, hfull, hrefused⟩ := ofJson_exact awkward hsome
  obtain ⟨⟨e, he, hstandard', hread'⟩, hholds', -, -⟩ := ofJson_exact awkward hone
  obtain rfl : d = ⟨⟨"**", "é\"\n\\"⟩, "𝔘\x01", .strict⟩ := by
    refine eq_of_fieldValue_eq fun field => ?_
    rcases field with (_ | _ | _) | _
    · exact hstandard _ (by decide)
    · exact hd _ (by decide)
    · exact hd _ (by decide)
    · exact hd _ (by decide)
  obtain rfl : e = ⟨⟨"****", "***"⟩, "|", .compat⟩ := by
    refine eq_of_fieldValue_eq fun field => ?_
    rcases field with (_ | _ | _) | _
    · exact he _ (by decide)
    · exact hstandard' _ (by decide)
    · exact hstandard' _ (by decide)
    · exact hstandard' _ (by decide)
  have hextra : HoldsMembers
      (Value.object (awkward.membersOf [.strict] ++ [("mode", .null)])).text
      (awkward.membersOf [.strict] ++ [("mode", .null)]) := by
    refine holdsMembers_text 0 fun m hm => ?_
    rcases List.mem_append.1 hm with hm | hm
    · obtain rfl := List.mem_singleton.1 hm
      trivial
    · obtain rfl := List.mem_singleton.1 hm
      trivial
  have hunknown : ∃ m ∈ awkward.membersOf [.strict] ++ [("mode", Value.null)],
      ∀ field : ConfigField, field.name ≠ m.1 := by
    refine ⟨("mode", .null), List.mem_append_right _ (List.mem_singleton_self _), ?_⟩
    rintro ((_ | _ | _) | _) <;> decide
  exact ⟨(hread _ hholds).1 (by decide), (hread' _ hholds').2 _ (by decide), hfull (by decide),
    hrefused _ _ hextra (.inr hunknown)⟩

end Config

end SeedScript
