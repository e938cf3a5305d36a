import SeedScript.Proofs.Batch.Statements
import SeedScript.Proofs.Batch.Texts

/-!
# Owner and item in one junction row

A junction row is filled under two keys, first that of the owner and then that of the item. A table
joined to itself may look both up in the same way. Then the two keys are one, the item takes the
place of the owner, and the row holds one cell for two columns. `Batch.ofRows_pairs_iff` says that
rows fail to bind the columns of their statement in this way only: a row of the seeded table always
binds them, and a junction row binds them, and pairs its owner with its token, exactly when the two
lookups differ.
-/

namespace SeedScript

/-- Every row has a cell under each column, in the order of the columns, and no other cell. -/
def Statement.Binds (s : Statement) : Prop := ∀ record ∈ s.rows, record.keys = s.columns

instance (s : Statement) : Decidable s.Binds :=
  inferInstanceAs (Decidable (∀ record ∈ s.rows, record.keys = s.columns))

/-- The rows hold, for every input row and every token of its cell, the subquery of the owner and
then that of the token. -/
def Statement.Pairs (c : Config) (rows : List Row) (key : String) (j : Junction)
    (owner item : Lookup) (s : Statement) : Prop :=
  s.rows.map Record.entries = rows.flatMap fun row =>
    (Text.split c.rowItemDelimiter (row.text key)).map fun token =>
      [(j.ownerKey, .subquery (owner.subquery c.mode (row.text j.firstSearchKey))),
        (j.itemKey, .subquery (item.subquery c.mode token))]

/-- Every style writes a statement with a tuple, for every input row and every token of its cell, of
the subquery of the owner and that of the token. -/
def Statement.WritesPairs (c : Config) (rows : List Row) (key : String) (j : Junction)
    (owner item : Lookup) (s : Statement) : Prop :=
  ∀ style : SqlStyle, (style.statement s).result =
    .ok ("INSERT INTO " ++ Naming.qualified s.schema s.table ++ " " ++
      SqlStyle.tuple (s.columns.map style.delimiters.baseName) ++ " VALUES " ++
      ", ".intercalate (rows.flatMap fun row =>
        (Text.split c.rowItemDelimiter (row.text key)).map fun token =>
          SqlStyle.tuple [owner.subquery c.mode (row.text j.firstSearchKey),
            item.subquery c.mode token]) ++ ";")

/-! ## The seeded table -/

theorem Layout.rootStatement_binds {c : Config} {schema table : String} {keys : List String}
    {layout : Layout} (hkeys : keys.Nodup)
    (hlayout : Layout.ofKeys c.delimiters schema table keys = .ok layout) (rows : List Row) :
    (layout.rootStatement c schema table rows).Binds := by
  intro record hrecord
  obtain ⟨row, -, rfl⟩ := List.mem_map.1 hrecord
  exact keys_rootRecord (nodup_key_root hlayout hkeys)

/-! ## Junction tables -/

namespace JunctionColumn

variable {c : Config} {schema table : String} {column : JunctionColumn} {rows : List Row}

theorem ownerKey_eq_itemKey_iff
    (hof : ofKey c.delimiters schema table column.key = .ok column) :
    column.junction.ownerKey = column.junction.itemKey ↔ column.owner = column.item := by
  obtain ⟨-, -, howner, hitem⟩ := ofKey_eq_ok_iff.1 hof
  constructor
  · intro h
    rw [h, hitem, Except.ok.injEq] at howner
    exact howner.symm
  · intro h
    rw [h] at howner
    exact Lookup.ofKey_injective howner hitem

theorem exists_mem_rows_statementOf (c : Config) (column : JunctionColumn) (hrows : rows ≠ []) :
    ∃ record, record ∈ (column.statementOf c rows).rows := by
  obtain ⟨row, hrow⟩ := List.exists_mem_of_ne_nil rows hrows
  obtain ⟨token, htoken⟩ :=
    List.exists_mem_of_ne_nil _ (Text.split_ne_nil c.rowItemDelimiter (row.text column.key))
  exact ⟨_, mem_rows_statementOf.2 ⟨row, hrow, token, htoken, rfl⟩⟩

theorem keys_join (mode : LiteralMode) (column : JunctionColumn) (owner item : String) :
    (column.join mode owner item).keys =
      if column.junction.ownerKey = column.junction.itemKey then [column.junction.itemKey]
      else [column.junction.ownerKey, column.junction.itemKey] := by
  rw [Record.keys, join, Record.entries_ofList_pair]
  split <;> rfl

/-- Junction rows bind the two columns exactly when the columns are two. -/
theorem statementOf_binds_iff (c : Config) (column : JunctionColumn) (hrows : rows ≠ []) :
    (column.statementOf c rows).Binds ↔ column.junction.ownerKey ≠ column.junction.itemKey := by
  constructor
  · intro hbinds heq
    obtain ⟨record, hrecord⟩ := exists_mem_rows_statementOf c column hrows
    have hkeys := hbinds record hrecord
    obtain ⟨row, -, token, -, rfl⟩ := mem_rows_statementOf.1 hrecord
    rw [keys_join, if_pos heq] at hkeys
    have hlength := congrArg List.length hkeys
    simp [statementOf] at hlength
  · intro hne record hrecord
    obtain ⟨row, -, token, -, rfl⟩ := mem_rows_statementOf.1 hrecord
    rw [keys_join, if_neg hne]
    rfl

theorem statementOf_pairs (hne : column.junction.ownerKey ≠ column.junction.itemKey) :
    (column.statementOf c rows).Pairs c rows column.key column.junction column.owner
      column.item := by
  simp only [Statement.Pairs, statementOf, records, List.map_flatMap, List.map_map]
  refine List.flatMap_congr fun row _ => List.map_congr_left fun token _ => ?_
  rw [Function.comp_apply, join, Record.entries_ofList_pair, if_neg hne]

theorem binds_of_pairs
    (h : (column.statementOf c rows).Pairs c rows column.key column.junction column.owner
      column.item) : (column.statementOf c rows).Binds := by
  intro record hrecord
  have hentries := List.mem_map_of_mem (f := Record.entries) hrecord
  rw [show (column.statementOf c rows).rows.map Record.entries = _ from h, List.mem_flatMap]
    at hentries
  obtain ⟨row, -, hentries⟩ := hentries
  obtain ⟨token, -, hentries⟩ := List.mem_map.1 hentries
  rw [Record.keys, ← hentries]
  rfl

theorem statementOf_writesPairs (hne : column.junction.ownerKey ≠ column.junction.itemKey) :
    (column.statementOf c rows).WritesPairs c rows column.key column.junction column.owner
      column.item := by
  intro style
  refine SqlStyle.result_statement_eq_ok_iff.2 ⟨statementOf_writesStatement hne rows, ?_⟩
  unfold SqlStyle.statementText
  rw [map_rowText_statementOf hne]

end JunctionColumn

/-! ## The batch -/

/-- Rows of the seeded table bind its columns. Junction rows bind theirs, and pair owners with
tokens, exactly when the owner and the item are found by different lookups; the statement is then
written with these pairs. -/
theorem Batch.ofRows_pairs_iff {c : Config} {schema table : String} {rows : List Row} {b : Batch}
    (h : Batch.ofRows c schema table rows = .ok b) :
    ∃ first rest root junctions, rows = first :: rest ∧ b.statements = root :: junctions ∧
      root.Binds ∧
      List.Forall₂ (fun key s => ∃ j owner item,
          Junction.ofKey c.delimiters schema table key = .ok j ∧
          Lookup.ofKey c.delimiters j.ownerKey = .ok owner ∧
          Lookup.ofKey c.delimiters j.itemKey = .ok item ∧
          s.columns = [j.ownerKey, j.itemKey] ∧
          (s.Binds ↔ owner ≠ item) ∧ (s.Pairs c rows key j owner item ↔ owner ≠ item) ∧
          (owner ≠ item → s.WritesPairs c rows key j owner item))
        (c.delimiters.junctionKeys first.keys) junctions := by
  obtain ⟨first, rest, layout, hrows, hlayout, -, hb⟩ := Batch.ofRows_eq_ok_iff.1 h
  have hne : rows ≠ [] := hrows ▸ List.cons_ne_nil _ _
  have hroot := Layout.rootStatement_binds first.nodup_keys hlayout rows
  refine ⟨first, rest, _, _, hrows, hb, hroot, ?_⟩
  rw [← Layout.map_key_junctions hlayout]
  refine List.forall₂_map_left_iff.2 (forall₂_map_self fun column hcolumn => ?_)
  have hof := (Layout.ofKey_of_mem_junctions hlayout hcolumn).2
  obtain ⟨-, hjunction, howner, hitem⟩ := JunctionColumn.ofKey_eq_ok_iff.1 hof
  have hkeys := (JunctionColumn.ownerKey_eq_itemKey_iff hof).not
  have hbinds := (JunctionColumn.statementOf_binds_iff c column hne).trans hkeys
  refine ⟨column.junction, column.owner, column.item, hjunction, howner, hitem, rfl, hbinds,
    ⟨fun hp => hbinds.1 (JunctionColumn.binds_of_pairs hp), fun ho => ?_⟩, fun ho => ?_⟩
  · exact JunctionColumn.statementOf_pairs (hkeys.2 ho)
  · exact JunctionColumn.statementOf_writesPairs (hkeys.2 ho)

/-- A user with friends among the users, who are found by name as the user is. -/
def friendRows : List Row :=
  [.ofList [("name", "ann"), ("user_id***friends***users***name***name", "bob|cat"),
    ("tag_id***user_tags***tags***tag***name", "x")]]

theorem Batch.ofRows_pairs_iff_friendRows :
    ∃ b, Batch.ofRows .standard "" "users" friendRows = .ok b ∧
      ∃ first rest root junctions, friendRows = first :: rest ∧ b.statements = root :: junctions ∧
        root.Binds ∧
        List.Forall₂ (fun key s => ∃ j owner item,
            Junction.ofKey Config.standard.delimiters "" "users" key = .ok j ∧
            Lookup.ofKey Config.standard.delimiters j.ownerKey = .ok owner ∧
            Lookup.ofKey Config.standard.delimiters j.itemKey = .ok item ∧
            s.columns = [j.ownerKey, j.itemKey] ∧
            (s.Binds ↔ owner ≠ item) ∧
            (s.Pairs .standard friendRows key j owner item ↔ owner ≠ item) ∧
            (owner ≠ item → s.WritesPairs .standard friendRows key j owner item))
          (Config.standard.delimiters.junctionKeys first.keys) junctions := by
  obtain ⟨b, hb⟩ := exists_eq_ok_of_isOk (x := Batch.ofRows .standard "" "users" friendRows)
    (by decide +kernel)
  exact ⟨b, hb, Batch.ofRows_pairs_iff hb⟩

/-- The friends' statement has two columns and rows of one cell, so the SQL befriends `bob` and
`cat` with themselves. -/
theorem Batch.ofRows_friendRows_not_binds :
    ∃ b, Config.standard.Valid ∧ Batch.ofRows .standard "" "users" friendRows = .ok b ∧
      (¬ ∀ s ∈ b.statements, s.Binds) ∧
      b.statements[1]?.map (fun s => s.rows.map Record.entries) = some [
        [("user_id**users**name", .subquery "(SELECT user_id FROM users WHERE name = 'bob')")],
        [("user_id**users**name",
          .subquery "(SELECT user_id FROM users WHERE name = 'cat')")]] := by
  obtain ⟨b, hb, hnot, hrows⟩ := exists_eq_ok_of_map
    (x := Batch.ofRows .standard "" "users" friendRows)
    (p := fun b => (¬ ∀ s ∈ b.statements, s.Binds) ∧
      b.statements[1]?.map (fun s => s.rows.map Record.entries) = some
        [[("user_id**users**name", .subquery "(SELECT user_id FROM users WHERE name = 'bob')")],
          [("user_id**users**name", .subquery "(SELECT user_id FROM users WHERE name = 'cat')")]])
    (by decide +kernel)
  exact ⟨b, Config.valid_standard, hb, hnot, hrows⟩

end SeedScript
