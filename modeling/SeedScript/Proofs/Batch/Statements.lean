import SeedScript.Proofs.Batch.ClosedForm

/-!
# What the statements of a batch hold

`Statement.HoldsRows` says what a statement for the seeded table is, and `Statement.JoinsRows` what
a statement for a junction table is, from the input rows and without the layout that a batch is
built from. A batch consists of one statement of the first kind and, for each many-to-many key of
the first row, one of the second (`Batch.ofRows_statements`).
-/

namespace SeedScript

/-- What a text of the seeded table becomes under a key: a lookup is a subquery, a text to be hashed
stays as it is, and any other is a literal or null. -/
def Cell.Resolves (c : Config) (key text : String) (cell : Cell) : Prop :=
  match c.delimiters.kind key with
  | .oneToMany =>
    ∃ sql, Lookup.subqueryOfKey c.delimiters c.mode key text = .ok sql ∧ cell = .subquery sql
  | .hashed => cell = .hashed text
  | .plain =>
    (cell = .null ↔ text = "" ∨ text = "NULL" ∨ text = "null") ∧
      (cell ≠ .null → cell = .literal text)
  | .manyToMany => False

/-- A statement for the seeded table: its columns are the keys that are not many-to-many, and it has
one row for each input row, with a cell under each of these keys. -/
structure Statement.HoldsRows (c : Config) (schema table : String) (keys : List String)
    (rows : List Row) (s : Statement) : Prop where
  schema_eq : s.schema = schema
  table_eq : s.table = table
  columns_eq : s.columns =
    keys.filter fun key => decide (¬ c.delimiters.manyToMany.toList <:+: key.toList)
  rows_resolve : List.Forall₂ (fun row record => record.keys = s.columns ∧
    ∀ key ∈ s.columns, ∃ text cell, row.get? key = some text ∧ record.get? key = some cell ∧
      cell.Resolves c key text) rows s.rows

/-- The junction rows of one input row: one for each token of its cell, with the subquery of the
owner and that of the token under the two keys of the junction. One key cannot hold both. -/
def Junction.JoinsRow (c : Config) (key : String) (j : Junction) (row : Row)
    (records : List (Record Cell)) : Prop :=
  ∃ text owner ownerSql tokens, row.get? key = some text ∧
    row.get? j.firstSearchKey = some owner ∧
    Lookup.subqueryOfKey c.delimiters c.mode j.ownerKey owner = .ok ownerSql ∧
    Text.CutInto c.rowItemDelimiter text tokens ∧ tokens ≠ [] ∧
    List.Forall₂ (fun token record => ∃ itemSql,
      Lookup.subqueryOfKey c.delimiters c.mode j.itemKey token = .ok itemSql ∧
      record.entries =
        if j.ownerKey = j.itemKey then [(j.itemKey, .subquery itemSql)]
        else [(j.ownerKey, .subquery ownerSql), (j.itemKey, .subquery itemSql)]) tokens records

/-- A statement for the junction table that a many-to-many key names in its second segment: its rows
are the junction rows of the input rows, one after the other. -/
structure Statement.JoinsRows (c : Config) (schema table : String) (rows : List Row) (key : String)
    (s : Statement) : Prop where
  schema_eq : s.schema = ""
  table_eq : (c.delimiters.segments .manyToMany key)[1]? = some s.table
  rows_join : ∃ j blocks, Junction.ofKey c.delimiters schema table key = .ok j ∧
    s.columns = [j.ownerKey, j.itemKey] ∧ s.rows = blocks.flatten ∧
    List.Forall₂ (j.JoinsRow c key) rows blocks

/-! ## The seeded table -/

theorem Lookup.subqueryOfKey_eq_ok {d : Delimiters} {mode : LiteralMode} {key : String}
    {l : Lookup} (h : Lookup.ofKey d key = .ok l) (text : String) :
    Lookup.subqueryOfKey d mode key text = .ok (l.subquery mode text) := by
  rw [subqueryOfKey, h]
  rfl

theorem RootColumn.resolve_resolves {c : Config} {column : RootColumn}
    (hroot : c.delimiters.kind column.key ≠ .manyToMany)
    (h : RootColumn.ofKey c.delimiters column.key = .ok column) (text : String) :
    (column.role.resolve c.mode text).Resolves c column.key text := by
  have hrole := (ofKey_eq_ok_iff.1 h).2
  unfold Cell.Resolves
  cases hkind : c.delimiters.kind column.key with
  | oneToMany =>
    rw [hkind] at hrole
    obtain ⟨l, hl, hrole⟩ := hrole
    rw [hrole]
    exact ⟨_, Lookup.subqueryOfKey_eq_ok hl text, rfl⟩
  | hashed =>
    rw [hkind] at hrole
    rw [show column.role = .hashed from hrole]
    rfl
  | plain =>
    rw [hkind] at hrole
    rw [show column.role = .literal from hrole, CellRole.resolve]
    by_cases hnull : Literal.isNullToken text = true
    · simp_all [Literal.isNullToken, or_assoc]
    · simp_all [Literal.isNullToken]
  | manyToMany => exact absurd hkind hroot

theorem Delimiters.rootKeys_eq_filter (d : Delimiters) (keys : List String) :
    d.rootKeys keys =
      keys.filter fun key => decide (¬ d.manyToMany.toList <:+: key.toList) := by
  refine List.filter_congr fun key _ => ?_
  rw [isRoot_kind, isManyToMany, Text.contains_eq_decide, decide_not]

theorem Delimiters.junctionKeys_eq_filter (d : Delimiters) (keys : List String) :
    d.junctionKeys keys =
      keys.filter fun key => decide (d.manyToMany.toList <:+: key.toList) := by
  refine List.filter_congr fun key _ => ?_
  rw [isRoot_kind, isManyToMany, Text.contains_eq_decide, Bool.not_not]

theorem Layout.rootStatement_holdsRows {c : Config} {schema table : String} {keys : List String}
    {layout : Layout} {rows : List Row} (hkeys : keys.Nodup)
    (hlayout : Layout.ofKeys c.delimiters schema table keys = .ok layout)
    (hcovers : ∀ row ∈ rows, layout.Covers row) :
    (layout.rootStatement c schema table rows).HoldsRows c schema table keys rows where
  schema_eq := rfl
  table_eq := rfl
  columns_eq := (map_key_root hlayout).trans (c.delimiters.rootKeys_eq_filter keys)
  rows_resolve := by
    have hnodup := nodup_key_root hlayout hkeys
    refine forall₂_map_self fun row hrow => ?_
    refine ⟨keys_rootRecord hnodup, fun key hkey => ?_⟩
    obtain ⟨column, hcolumn, rfl⟩ := List.mem_map.1 hkey
    obtain ⟨hroot, hof⟩ := ofKey_of_mem_root hlayout hcolumn
    exact ⟨_, _, Row.get?_eq_some_iff.2 ⟨(hcovers row hrow).1 column hcolumn, rfl⟩,
      get?_rootRecord hnodup hcolumn,
      RootColumn.resolve_resolves (Delimiters.mem_rootKeys_iff.1 hroot).2 hof _⟩

/-! ## Junction tables -/

theorem JunctionColumn.records_joinsRow {c : Config} {schema table : String}
    {column : JunctionColumn} {row : Row}
    (hof : JunctionColumn.ofKey c.delimiters schema table column.key = .ok column)
    (hkey : column.key ∈ row.keys) (howner : column.junction.firstSearchKey ∈ row.keys) :
    column.junction.JoinsRow c column.key row (column.records c row) := by
  obtain ⟨-, -, hownerLookup, hitemLookup⟩ := ofKey_eq_ok_iff.1 hof
  refine ⟨_, _, _, _, Row.get?_eq_some_iff.2 ⟨hkey, rfl⟩, Row.get?_eq_some_iff.2 ⟨howner, rfl⟩,
    Lookup.subqueryOfKey_eq_ok hownerLookup _, Text.cutInto_iff.2 rfl, Text.split_ne_nil _ _, ?_⟩
  refine forall₂_map_self fun token _ => ?_
  exact ⟨_, Lookup.subqueryOfKey_eq_ok hitemLookup token, Record.entries_ofList_pair _ _ _ _⟩

theorem JunctionColumn.statementOf_joinsRows {c : Config} {schema table : String}
    {column : JunctionColumn} {rows : List Row}
    (hof : JunctionColumn.ofKey c.delimiters schema table column.key = .ok column)
    (hcovers : ∀ row ∈ rows,
      column.key ∈ row.keys ∧ column.junction.firstSearchKey ∈ row.keys) :
    (column.statementOf c rows).JoinsRows c schema table rows column.key where
  schema_eq := rfl
  table_eq := by
    obtain ⟨-, hjunction, -, -⟩ := ofKey_eq_ok_iff.1 hof
    obtain ⟨joinKey, hsegments, -, -, -⟩ := Junction.ofKey_eq_ok_iff.1 hjunction
    rw [hsegments]
    rfl
  rows_join := by
    refine ⟨column.junction, rows.map (column.records c), (ofKey_eq_ok_iff.1 hof).2.1, rfl,
      List.flatMap_def, ?_⟩
    refine forall₂_map_self fun row hrow => ?_
    exact records_joinsRow hof (hcovers row hrow).1 (hcovers row hrow).2

/-! ## The batch -/

/-- A batch holds a statement for the seeded table and then, in the order of the first row's keys, a
statement for each many-to-many key. -/
theorem Batch.ofRows_statements {c : Config} {schema table : String} {rows : List Row} {b : Batch}
    (h : Batch.ofRows c schema table rows = .ok b) :
    ∃ first rest root junctions, rows = first :: rest ∧ b.statements = root :: junctions ∧
      root.HoldsRows c schema table first.keys rows ∧
      List.Forall₂ (fun key s => s.JoinsRows c schema table rows key)
        (first.keys.filter fun key => decide (c.delimiters.manyToMany.toList <:+: key.toList))
        junctions := by
  obtain ⟨first, rest, layout, hrows, hlayout, hcovers, hb⟩ := Batch.ofRows_eq_ok_iff.1 h
  refine ⟨first, rest, _, _, hrows, hb,
    Layout.rootStatement_holdsRows first.nodup_keys hlayout hcovers, ?_⟩
  rw [← Delimiters.junctionKeys_eq_filter, ← Layout.map_key_junctions hlayout]
  refine List.forall₂_map_left_iff.2 (forall₂_map_self fun column hcolumn => ?_)
  exact JunctionColumn.statementOf_joinsRows (Layout.ofKey_of_mem_junctions hlayout hcolumn).2
    fun row hrow => (hcovers row hrow).2 column hcolumn

/-- Two users: a null token to be hashed, a star, an empty token, and keys in another order in the
second row. -/
def userRows : List Row :=
  [.ofList [("name", "ann"), ("pass#", "NULL"), ("tag_id***user_tags***tags***tag***name", "a||b"),
      ("note", "null"), ("role_id**roles**role", "*")],
    .ofList [("role_id**roles**role", "admin"), ("note", "NOW()"), ("name", "bob"), ("pass#", "x"),
      ("tag_id***user_tags***tags***tag***name", "")]]

theorem Batch.ofRows_statements_userRows :
    ∃ b, Batch.ofRows .standard "public" "users" userRows = .ok b ∧
      ∃ first rest root junctions, userRows = first :: rest ∧ b.statements = root :: junctions ∧
        root.HoldsRows .standard "public" "users" first.keys userRows ∧
        List.Forall₂ (fun key s => s.JoinsRows .standard "public" "users" userRows key)
          (first.keys.filter fun key =>
            decide (Config.standard.delimiters.manyToMany.toList <:+: key.toList)) junctions := by
  obtain ⟨b, hb⟩ := exists_eq_ok_of_isOk (x := Batch.ofRows .standard "public" "users" userRows)
    (by decide +kernel)
  exact ⟨b, hb, Batch.ofRows_statements hb⟩

end SeedScript
