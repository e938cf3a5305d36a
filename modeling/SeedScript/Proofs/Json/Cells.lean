import SeedScript.Proofs.Json.Rows

/-!
# Cells that are no strings

Members of one name collapse into one, with the last value in the first place (`IsCollapse`). The
rows of a text are the collapsed objects, when all their values are strings, and otherwise the first
other value in row order, then key order, is reported; a text that spells no array of objects is
refused before any cell is looked at (`rows_exact`). So nothing but the collapse of the objects
counts, however the text spells them (`rows_eq_of_isCollapse`).
-/

namespace SeedScript

open Json (Value)

/-! ## Collapsed members -/

section Collapse

variable {α : Type} {members entries : List (String × α)}

/-- One entry for each name, where the name comes first, with the value that comes last. -/
structure IsCollapse (members entries : List (String × α)) : Prop where
  names : entries.map Prod.fst = (members.map Prod.fst).eraseDups
  last : ∀ e ∈ entries, ∃ before after, members = before ++ e :: after ∧ ∀ m ∈ after, m.1 ≠ e.1

/-- A name that comes at all comes for the last time. -/
theorem exists_last_of_mem {key : String} (h : key ∈ members.map Prod.fst) :
    ∃ before value after, members = before ++ (key, value) :: after ∧ ∀ m ∈ after, m.1 ≠ key := by
  induction members with
  | nil => cases h
  | cons m members ih =>
    by_cases hkey : key ∈ members.map Prod.fst
    · obtain ⟨before, value, after, rfl, hafter⟩ := ih hkey
      exact ⟨m :: before, value, after, rfl, hafter⟩
    · obtain rfl : key = m.1 := (List.mem_cons.1 h).resolve_right hkey
      refine ⟨[], m.2, members, rfl, fun n hn heq => hkey ?_⟩
      exact heq ▸ List.mem_map_of_mem hn

theorem get?_of_mem_entries {r : Record α} {e : String × α} (h : e ∈ r.entries) :
    r.get? e.1 = some e.2 := by
  have hlookup : (r.entries.map fun e => (e.1, e.2)).lookup e.1 = some e.2 :=
    lookup_map_of_mem r.nodup h
  rw [List.map_id''] at hlookup
  · exact hlookup
  · exact fun _ => rfl

theorem isCollapse_ofList (members : List (String × α)) :
    IsCollapse members (Record.ofList members).entries where
  names := Record.keys_ofList_eq_eraseDups members
  last := by
    intro e he
    have hkey : e.1 ∈ members.map Prod.fst := by
      have hmem : e.1 ∈ (Record.ofList members).keys := List.mem_map_of_mem he
      rwa [Record.keys_ofList_eq_eraseDups, List.mem_eraseDups] at hmem
    obtain ⟨before, value, after, hsplit, hafter⟩ := exists_last_of_mem hkey
    have hlast := Record.get?_ofList_of_last before value hafter
    rw [← hsplit, get?_of_mem_entries he] at hlast
    obtain rfl : e.2 = value := Option.some.inj hlast
    exact ⟨before, after, hsplit, hafter⟩

/-- Members have only one collapse. -/
theorem IsCollapse.eq_entries (h : IsCollapse members entries) :
    entries = (Record.ofList members).entries := by
  have hnames : entries.map Prod.fst = (Record.ofList members).entries.map Prod.fst := by
    rw [h.names]
    exact (Record.keys_ofList_eq_eraseDups members).symm
  have hlength := congrArg List.length hnames
  rw [List.length_map, List.length_map] at hlength
  refine List.ext_getElem hlength fun i hi hi' => ?_
  obtain ⟨before, after, hsplit, hafter⟩ := h.last entries[i] (List.getElem_mem hi)
  have hlast := Record.get?_ofList_of_last before entries[i].2 hafter
  rw [← hsplit] at hlast
  have hname : entries[i].1 = ((Record.ofList members).entries[i]).1 := by
    have hget := congrArg (·[i]?) hnames
    simpa [hi, hi'] using hget
  rw [hname, get?_of_mem_entries (List.getElem_mem hi')] at hlast
  exact Prod.ext hname (Option.some.inj hlast).symm

end Collapse

/-! ## Objects with strings only -/

def StringsOnly (entries : List (String × Value)) : Prop := ∀ e ∈ entries, e.2.kind = .string

/-- The first value that is no string, in row order, then key order, stands in this row under this
key. -/
def FirstOther (rows : List (List (String × Value))) (index : Nat) (column : String) (v : Value) :
    Prop :=
  ∃ above before after below, rows = above ++ (before ++ (column, v) :: after) :: below ∧
    above.length = index ∧ (∀ entries ∈ above, StringsOnly entries) ∧ StringsOnly before ∧
    v.kind ≠ .string

namespace Json

variable {index : Nat} {column : String} {v : Value}

theorem cellText_eq_ok_iff {s : String} : cellText index column v = .ok s ↔ v = .string s := by
  cases v <;> simp [cellText]

theorem cellText_eq_error_iff {e : SeedError} :
    cellText index column v = .error e ↔ v.kind ≠ .string ∧ e = .cellType index column v.kind := by
  cases v <;> simp [cellText, Value.kind, eq_comm]

theorem exists_string_of_kind (h : v.kind = .string) : ∃ s, v = .string s := by
  cases v with
  | string s => exact ⟨s, rfl⟩
  | _ => cases h

variable {object : Record Value}

/-- An object is read as the row whose members it has. -/
theorem rowOfObject_eq_ok_iff {row : Row} :
    rowOfObject index object = .ok row ↔ object.entries = row.members := by
  constructor
  · intro h
    obtain ⟨cells, hcells, rfl⟩ := map_eq_ok_iff.1 h
    have hentries : cells.map (fun c => (c.1, Value.string c.2)) = object.entries := by
      refine map_eq_of_forall₂ (mapM_eq_ok_iff.1 hcells) fun e c hc => ?_
      obtain ⟨s, hs, rfl⟩ := map_eq_ok_iff.1 hc
      exact Prod.ext rfl (cellText_eq_ok_iff.1 hs).symm
    have hnodup : (cells.map Prod.fst).Nodup := by
      have hkeys := object.nodup
      rwa [← hentries, List.map_map] at hkeys
    rw [Row.members, Record.entries_ofList hnodup, hentries]
  · intro h
    have hnodup : (row.members.map Prod.fst).Nodup := h ▸ object.nodup
    obtain rfl : object = Record.ofList row.members :=
      Record.ext (h.trans (Record.entries_ofList hnodup).symm)
    exact Row.rowOfObject_members index row

theorem exists_cell_iff :
    (∃ cell, (cellText index column v).map (fun s => (column, s)) = .ok cell) ↔
      v.kind = .string := by
  constructor
  · rintro ⟨cell, h⟩
    obtain ⟨s, hs, -⟩ := map_eq_ok_iff.1 h
    rw [cellText_eq_ok_iff.1 hs]
    rfl
  · intro h
    obtain ⟨s, rfl⟩ := exists_string_of_kind h
    exact ⟨(column, s), rfl⟩

theorem rowOfObject_eq_error_iff {e : SeedError} :
    rowOfObject index object = .error e ↔
      ∃ before column v after, object.entries = before ++ (column, v) :: after ∧
        StringsOnly before ∧ v.kind ≠ .string ∧ e = .cellType index column v.kind := by
  rw [rowOfObject, map_eq_error_iff, mapM_eq_error_iff]
  constructor
  · rintro ⟨before, ⟨column, v⟩, after, hsplit, hbefore, hv⟩
    obtain ⟨hkind, rfl⟩ := cellText_eq_error_iff.1 (map_eq_error_iff.1 hv)
    exact ⟨before, column, v, after, hsplit, fun m hm => exists_cell_iff.1 (hbefore m hm), hkind,
      rfl⟩
  · rintro ⟨before, column, v, after, hsplit, hbefore, hkind, rfl⟩
    exact ⟨before, (column, v), after, hsplit, fun m hm => exists_cell_iff.2 (hbefore m hm),
      map_eq_error_iff.2 (cellText_eq_error_iff.2 ⟨hkind, rfl⟩)⟩

theorem exists_rowOfObject_iff :
    (∃ row, rowOfObject index object = .ok row) ↔ StringsOnly object.entries := by
  constructor
  · rintro ⟨row, h⟩
    rw [rowOfObject_eq_ok_iff.1 h]
    intro e he
    obtain ⟨cell, -, rfl⟩ := List.mem_map.1 he
    rfl
  · intro h
    cases hread : rowOfObject index object with
    | ok row => exact ⟨row, rfl⟩
    | error e =>
      obtain ⟨before, column, v, after, hsplit, -, hkind, -⟩ := rowOfObject_eq_error_iff.1 hread
      refine absurd (h (column, v) ?_) hkind
      rw [hsplit]
      exact List.mem_append_right _ List.mem_cons_self

/-! ## Rows -/

/-- The collapsed members of the objects of a text. -/
def collapsed (objects : List (List (String × Value))) : List (List (String × Value)) :=
  objects.map fun members => (Record.ofList members).entries

theorem forall₂_isCollapse (objects : List (List (String × Value))) :
    List.Forall₂ IsCollapse objects (collapsed objects) :=
  forall₂_map_self fun members _ => isCollapse_ofList members

theorem collapsed_eq {objects entries : List (List (String × Value))}
    (h : List.Forall₂ IsCollapse objects entries) : collapsed objects = entries :=
  map_eq_of_forall₂ h.flip fun _ _ hcollapse => hcollapse.eq_entries.symm

section Rows

variable {text : String} {objects : List (List (String × Value))}

theorem rows_eq_mapM (h : document objectsValue text = .ok objects) :
    rows text = objects.zipIdx.mapM fun x => rowOfObject x.2 (Record.ofList x.1) := by
  rw [rows, h]

/-- The rows of a text are its collapsed objects. -/
theorem rows_eq_ok_iff (h : document objectsValue text = .ok objects) {result : List Row} :
    rows text = .ok result ↔ result.map Row.members = collapsed objects := by
  have hfst : collapsed objects =
      objects.zipIdx.map fun x => (Record.ofList x.1).entries := by
    rw [collapsed]
    conv_lhs => rw [← List.zipIdx_map_fst 0 objects, List.map_map]
    rfl
  rw [rows_eq_mapM h, mapM_eq_ok_iff, hfst, eq_comm (a := result.map Row.members),
    ← forall₂_eq_iff_map_eq]
  simp only [rowOfObject_eq_ok_iff]

theorem rows_eq_error_iff (h : document objectsValue text = .ok objects) {e : SeedError} :
    rows text = .error e ↔ ∃ index column v, FirstOther (collapsed objects) index column v ∧
      e = .cellType index column v.kind := by
  rw [rows_eq_mapM h, mapM_zipIdx_eq_error_iff
    (f := fun members index => rowOfObject index (Record.ofList members))]
  constructor
  · rintro ⟨before, members, after, rfl, hbefore, hrow⟩
    obtain ⟨front, column, v, back, hentries, hfront, hkind, rfl⟩ := rowOfObject_eq_error_iff.1 hrow
    refine ⟨before.length, column, v, ⟨collapsed before, front, back, collapsed after, ?_, ?_, ?_,
      hfront, hkind⟩, rfl⟩
    · rw [collapsed, List.map_append, List.map_cons, hentries]
      rfl
    · rw [collapsed, List.length_map]
    · intro entries hmem
      obtain ⟨members, hmembers, rfl⟩ := List.mem_map.1 hmem
      obtain ⟨k, hk, rfl⟩ := List.mem_iff_getElem.1 hmembers
      have hplace : (before[k], k) ∈ before.zipIdx :=
        List.mk_mem_zipIdx_iff_getElem?.2 (List.getElem?_eq_getElem hk)
      exact exists_rowOfObject_iff.1 (hbefore _ hplace)
  · rintro ⟨index, column, v, ⟨above, front, back, below, hsplit, rfl, habove, hfront, hkind⟩, rfl⟩
    obtain ⟨before, tail, rfl, rfl, htail⟩ := List.map_eq_append_iff.1 hsplit
    obtain ⟨members, after, rfl, hentries, rfl⟩ := List.map_eq_cons_iff.1 htail
    refine ⟨before, members, after, rfl, fun p hp => exists_rowOfObject_iff.2 ?_, ?_⟩
    · exact habove _ (List.mem_map_of_mem (List.fst_mem_of_mem_zipIdx hp))
    · rw [List.length_map]
      exact rowOfObject_eq_error_iff.2 ⟨front, column, v, back, hentries, hfront, hkind, rfl⟩

/-- There are rows when no value is anything but a string. -/
theorem exists_rows_iff (h : document objectsValue text = .ok objects) :
    (∃ result, rows text = .ok result) ↔ ∀ entries ∈ collapsed objects, StringsOnly entries := by
  constructor
  · rintro ⟨result, hread⟩
    rw [← (rows_eq_ok_iff h).1 hread]
    intro entries hentries e he
    obtain ⟨row, -, rfl⟩ := List.mem_map.1 hentries
    obtain ⟨cell, -, rfl⟩ := List.mem_map.1 he
    rfl
  · intro hstrings
    cases hread : rows text with
    | ok result => exact ⟨result, rfl⟩
    | error e =>
      obtain ⟨index, column, v, ⟨above, front, back, below, hsplit, -, -, -, hkind⟩, -⟩ :=
        (rows_eq_error_iff h).1 hread
      have hrow : front ++ (column, v) :: back ∈ collapsed objects := by
        rw [hsplit]
        exact List.mem_append_right _ List.mem_cons_self
      exact absurd (hstrings _ hrow _ (List.mem_append_right _ List.mem_cons_self)) hkind

end Rows

/-- A text spells an array of objects, with blanks around it. -/
def HoldsObjects (text : String) (objects : List (List (String × Value))) : Prop :=
  Padded SpellsObjects text.toList objects

theorem exists_fault_iff {text : String} :
    (∃ fault, rows text = .error (.json fault)) ↔ ∀ objects, ¬ HoldsObjects text objects := by
  constructor
  · rintro ⟨fault, hread⟩ objects hobjects
    obtain ⟨index, column, v, -, he⟩ :=
      (rows_eq_error_iff (reads_objectsValue.document_eq_ok_iff.2 hobjects)).1 hread
    cases he
  · intro hnone
    cases hread : document objectsValue text with
    | ok objects => exact absurd (reads_objectsValue.document_eq_ok_iff.1 hread) (hnone objects)
    | error fault => exact ⟨fault, by rw [rows, hread]⟩

/-- Texts whose objects collapse alike are read alike, as the same rows or with the same error. -/
theorem rows_eq_of_isCollapse {text text' : String}
    {objects objects' entries : List (List (String × Value))} (h : HoldsObjects text objects)
    (h' : HoldsObjects text' objects') (hcollapse : List.Forall₂ IsCollapse objects entries)
    (hcollapse' : List.Forall₂ IsCollapse objects' entries) : rows text = rows text' := by
  have hread := reads_objectsValue.document_eq_ok_iff.2 h
  have hread' := reads_objectsValue.document_eq_ok_iff.2 h'
  have hcollapsed : collapsed objects = collapsed objects' :=
    (collapsed_eq hcollapse).trans (collapsed_eq hcollapse').symm
  cases hrows : rows text' with
  | ok result =>
    rw [rows_eq_ok_iff hread, hcollapsed]
    exact (rows_eq_ok_iff hread').1 hrows
  | error e =>
    rw [rows_eq_error_iff hread, hcollapsed]
    exact (rows_eq_error_iff hread').1 hrows

/-- Objects whose values nest no deeper than is read, with numbers in range. -/
def ObjectsWithin (objects : List (List (String × Value))) : Prop :=
  ∀ members ∈ objects, ∀ m ∈ members,
    m.2.Within (fun n => n.inRange = true) (maxDepth - 2)

theorem holdsObjects_text {objects : List (List (String × Value))} (h : ObjectsWithin objects) :
    HoldsObjects (Value.array (objects.map .object)).text objects := by
  refine padded_self ⟨itemsChars (objects.map .object), ?_, ?_⟩
  · rw [itemsChars_eq_commas, List.map_map]
    exact spellsItems_commas fun members hmembers =>
      spellsObject_chars fun m hm => Value.spells_chars (h members hmembers m hm)
  · rw [Value.text, String.toList_ofList, Value.chars]
    rfl

/-- The rows of a text that holds objects are the collapsed objects, and there are such rows when
all collapsed values are strings. Otherwise the first that is none is reported, in row order, then
key order, and members that a later one replaces do not count. A text that holds no objects is
refused as JSON, whatever stands in front of the fault. Objects within the limits of the reader are
held by the text that they are written as. -/
theorem rows_exact (text : String) :
    (∀ objects, HoldsObjects text objects → ∃ entries, List.Forall₂ IsCollapse objects entries ∧
      (∀ result, rows text = .ok result ↔ result.map Row.members = entries) ∧
      ((∃ result, rows text = .ok result) ↔ ∀ row ∈ entries, StringsOnly row) ∧
      ∀ e, rows text = .error e ↔ ∃ index column v, FirstOther entries index column v ∧
        e = .cellType index column v.kind) ∧
    ((∃ fault, rows text = .error (.json fault)) ↔ ∀ objects, ¬ HoldsObjects text objects) ∧
    ∀ objects, ObjectsWithin objects → text = (Value.array (objects.map .object)).text →
      HoldsObjects text objects := by
  refine ⟨fun objects hobjects => ?_, exists_fault_iff, fun objects hwithin htext => ?_⟩
  · have hread := reads_objectsValue.document_eq_ok_iff.2 hobjects
    exact ⟨collapsed objects, forall₂_isCollapse objects, fun result => rows_eq_ok_iff hread,
      exists_rows_iff hread, fun e => rows_eq_error_iff hread⟩
  · rw [htext]
    exact holdsObjects_text hwithin

/-- Names that come twice. In the first object a string replaces a number, in the second a boolean
replaces a string, behind the last value of the other name. -/
def repeatedNames : String :=
  "[ \x7b\"a\": 1, \"b\":\"x\", \"a\" : \"\\u00e9\"\x7d,\n" ++
    "\x7b\"a\":\"y\",\"b\":\x7b\"c\":[]\x7d, \"b\":null, \"a\":true\x7d]"

theorem rows_exact_repeatedNames :
    (∃ objects entries v, HoldsObjects repeatedNames objects ∧
      List.Forall₂ IsCollapse objects entries ∧ FirstOther entries 1 "a" v ∧
      v.kind = .boolean) ∧
    rows repeatedNames = .error (.cellType 1 "a" .boolean) ∧
    ∀ objects, ¬ HoldsObjects (repeatedNames ++ "]") objects := by
  have hread : rows repeatedNames = .error (.cellType 1 "a" .boolean) := by decide +kernel
  have hmalformed : rows (repeatedNames ++ "]") = .error (.json .malformed) := by decide +kernel
  obtain ⟨objects, hobjects⟩ : ∃ objects, HoldsObjects repeatedNames objects := by
    by_contra hnone
    obtain ⟨fault, hfault⟩ := (rows_exact repeatedNames).2.1.2 fun objects hobjects =>
      hnone ⟨objects, hobjects⟩
    rw [hread] at hfault
    cases hfault
  obtain ⟨entries, hentries, -, -, herror⟩ := (rows_exact repeatedNames).1 objects hobjects
  obtain ⟨index, column, v, hfirst, he⟩ := (herror _).1 hread
  obtain ⟨rfl, rfl, hkind⟩ := SeedError.cellType.inj he
  exact ⟨⟨objects, entries, v, hobjects, hentries, hfirst, hkind.symm⟩, hread,
    (rows_exact (repeatedNames ++ "]")).2.1.1 ⟨_, hmalformed⟩⟩

end Json

end SeedScript
