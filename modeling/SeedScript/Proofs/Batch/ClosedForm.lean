import SeedScript.Batch.Expansion
import SeedScript.Proofs.Column.Lookups
import SeedScript.Proofs.Records
import SeedScript.Proofs.Traversal

/-!
# Batches without traversals

A batch is built by traversals that stop at the first fault. Each of them succeeds exactly when the
row has the keys that the layout asks for, and then gives a value that can be written down without
it. So a batch of rows exists exactly when the keys of the first row give a layout and every row is
covered by it, and it then consists of maps over the rows (`Batch.ofRows_eq_ok_iff`).
-/

namespace SeedScript

/-! ## Cells -/

/-- The text of a cell, empty when the row has no such key. -/
def Row.text (row : Row) (key : String) : String := (row.get? key).getD ""

namespace Row

variable {row : Row} {index : Nat} {key text : String}

theorem get?_eq_some_iff : row.get? key = some text ↔ key ∈ row.keys ∧ text = row.text key := by
  rw [← Record.isSome_get?_iff, Row.text]
  cases h : row.get? key with
  | none => simp
  | some value => simp [eq_comm]

theorem cell_eq_ok_iff :
    row.cell index key = .ok text ↔ key ∈ row.keys ∧ text = row.text key := by
  rw [← get?_eq_some_iff, cell]
  cases h : row.get? key with
  | none => simp
  | some value => simp

theorem cell_eq_error_iff {e : SeedError} :
    row.cell index key = .error e ↔ key ∉ row.keys ∧ e = .missingCell index key := by
  rw [← Record.isSome_get?_iff, cell]
  cases h : row.get? key with
  | none => simp [eq_comm]
  | some value => simp

end Row

/-! ## Keys -/

theorem Delimiters.mem_rootKeys_iff {d : Delimiters} {keys : List String} {key : String} :
    key ∈ d.rootKeys keys ↔ key ∈ keys ∧ d.kind key ≠ .manyToMany := by
  rw [rootKeys, List.mem_filter, ColumnKind.isRoot, bne_iff_ne]

theorem Delimiters.mem_junctionKeys_iff {d : Delimiters} {keys : List String} {key : String} :
    key ∈ d.junctionKeys keys ↔ key ∈ keys ∧ d.kind key = .manyToMany := by
  rw [junctionKeys, List.mem_filter, ColumnKind.isRoot, Bool.not_eq_true', bne_eq_false_iff_eq]

/-- The column that a many-to-many key finds the owner by: its last segment. -/
def Delimiters.ownerColumn (d : Delimiters) (key : String) : String :=
  (d.segments .manyToMany key).getLastD ""

/-! ## Columns -/

namespace RootColumn

variable {d : Delimiters} {key : String} {column : RootColumn}

theorem ofKey_eq_ok_iff :
    ofKey d key = .ok column ↔ column.key = key ∧
      match d.kind key with
      | .oneToMany => ∃ l, Lookup.ofKey d key = .ok l ∧ column.role = .lookup l
      | .hashed => column.role = .hashed
      | _ => column.role = .literal := by
  obtain ⟨key', role⟩ := column
  unfold ofKey
  cases d.kind key with
  | oneToMany =>
    simp only [map_eq_ok_iff, RootColumn.mk.injEq]
    constructor
    · rintro ⟨l, hl, rfl, rfl⟩
      exact ⟨rfl, l, hl, rfl⟩
    · rintro ⟨rfl, l, hl, rfl⟩
      exact ⟨l, hl, rfl, rfl⟩
  | hashed => simp [eq_comm]
  | plain => simp [eq_comm]
  | manyToMany => simp [eq_comm]

theorem cell_eq_ok_iff {mode : LiteralMode} {row : Row} {index : Nat} {p : String × Cell} :
    cell mode row index column = .ok p ↔
      column.key ∈ row.keys ∧ p = (column.key, column.role.resolve mode (row.text column.key)) := by
  unfold cell
  rw [map_eq_ok_iff]
  simp only [Row.cell_eq_ok_iff]
  constructor
  · rintro ⟨text, ⟨hkey, rfl⟩, rfl⟩
    exact ⟨hkey, rfl⟩
  · rintro ⟨hkey, rfl⟩
    exact ⟨_, ⟨hkey, rfl⟩, rfl⟩

end RootColumn

/-- The junction rows of a row that has the keys they are made from. -/
def JunctionColumn.records (c : Config) (column : JunctionColumn) (row : Row) :
    List (Record Cell) :=
  (Text.split c.rowItemDelimiter (row.text column.key)).map
    (column.join c.mode (row.text column.junction.firstSearchKey))

namespace JunctionColumn

variable {d : Delimiters} {schema table key : String} {column : JunctionColumn}

theorem ofKey_eq_ok_iff :
    ofKey d schema table key = .ok column ↔ column.key = key ∧
      Junction.ofKey d schema table key = .ok column.junction ∧
      Lookup.ofKey d column.junction.ownerKey = .ok column.owner ∧
      Lookup.ofKey d column.junction.itemKey = .ok column.item := by
  unfold ofKey
  simp only [bind_eq_ok_iff, pure, Except.pure, Except.ok.injEq]
  constructor
  · rintro ⟨junction, hjunction, owner, howner, item, hitem, rfl⟩
    exact ⟨rfl, hjunction, howner, hitem⟩
  · rintro ⟨rfl, hjunction, howner, hitem⟩
    exact ⟨_, hjunction, _, howner, _, hitem, rfl⟩

theorem ownerColumn_eq (hof : ofKey d schema table column.key = .ok column) :
    d.ownerColumn column.key = column.junction.firstSearchKey := by
  obtain ⟨-, hjunction, -, -⟩ := ofKey_eq_ok_iff.1 hof
  obtain ⟨joinKey, hsegments, -⟩ := Junction.ofKey_eq_ok_iff.1 hjunction
  rw [Delimiters.ownerColumn, hsegments]
  rfl

theorem rows_eq_ok_iff {c : Config} {row : Row} {index : Nat} {records : List (Record Cell)} :
    rows c row index column = .ok records ↔
      (column.key ∈ row.keys ∧ column.junction.firstSearchKey ∈ row.keys) ∧
        records = column.records c row := by
  unfold rows
  simp only [bind_eq_ok_iff, Row.cell_eq_ok_iff, pure, Except.pure, Except.ok.injEq]
  constructor
  · rintro ⟨items, ⟨hitems, rfl⟩, owner, ⟨howner, rfl⟩, rfl⟩
    exact ⟨⟨hitems, howner⟩, rfl⟩
  · rintro ⟨⟨hitems, howner⟩, rfl⟩
    exact ⟨_, ⟨hitems, rfl⟩, _, ⟨howner, rfl⟩, rfl⟩

end JunctionColumn

/-! ## Layouts -/

namespace Layout

variable {c : Config} {layout : Layout} {row : Row} {index : Nat}

theorem ofKeys_eq_ok_iff {d : Delimiters} {schema table : String} {keys : List String} :
    ofKeys d schema table keys = .ok layout ↔
      List.Forall₂ (fun key column => RootColumn.ofKey d key = .ok column) (d.rootKeys keys)
          layout.root ∧
        List.Forall₂ (fun key column => JunctionColumn.ofKey d schema table key = .ok column)
          (d.junctionKeys keys) layout.junctions := by
  unfold ofKeys
  simp only [bind_eq_ok_iff, mapM_eq_ok_iff, pure, Except.pure, Except.ok.injEq]
  constructor
  · rintro ⟨root, hroot, junctions, hjunctions, rfl⟩
    exact ⟨hroot, hjunctions⟩
  · rintro ⟨hroot, hjunctions⟩
    exact ⟨_, hroot, _, hjunctions, rfl⟩

section Keys

variable {d : Delimiters} {schema table : String} {keys : List String}
  (h : ofKeys d schema table keys = .ok layout)

include h

theorem map_key_root : layout.root.map RootColumn.key = d.rootKeys keys :=
  map_eq_of_forall₂ (ofKeys_eq_ok_iff.1 h).1 fun _ _ hc => (RootColumn.ofKey_eq_ok_iff.1 hc).1

theorem map_key_junctions : layout.junctions.map JunctionColumn.key = d.junctionKeys keys :=
  map_eq_of_forall₂ (ofKeys_eq_ok_iff.1 h).2 fun _ _ hc => (JunctionColumn.ofKey_eq_ok_iff.1 hc).1

theorem ofKey_of_mem_root {column : RootColumn} (hc : column ∈ layout.root) :
    column.key ∈ d.rootKeys keys ∧ RootColumn.ofKey d column.key = .ok column := by
  obtain ⟨key, hkey, hof⟩ := exists_of_forall₂_of_mem (ofKeys_eq_ok_iff.1 h).1 hc
  rw [(RootColumn.ofKey_eq_ok_iff.1 hof).1]
  exact ⟨hkey, hof⟩

theorem ofKey_of_mem_junctions {column : JunctionColumn} (hc : column ∈ layout.junctions) :
    column.key ∈ d.junctionKeys keys ∧
      JunctionColumn.ofKey d schema table column.key = .ok column := by
  obtain ⟨key, hkey, hof⟩ := exists_of_forall₂_of_mem (ofKeys_eq_ok_iff.1 h).2 hc
  rw [(JunctionColumn.ofKey_eq_ok_iff.1 hof).1]
  exact ⟨hkey, hof⟩

theorem nodup_key_root (hkeys : keys.Nodup) : (layout.root.map RootColumn.key).Nodup := by
  rw [map_key_root h]
  exact hkeys.filter _

end Keys

/-- A row has every key that the layout takes a cell from. -/
def Covers (layout : Layout) (row : Row) : Prop :=
  (∀ column ∈ layout.root, column.key ∈ row.keys) ∧
    ∀ column ∈ layout.junctions,
      column.key ∈ row.keys ∧ column.junction.firstSearchKey ∈ row.keys

/-- The row of the seeded table that a row becomes. -/
def rootRecord (mode : LiteralMode) (layout : Layout) (row : Row) : Record Cell :=
  .ofList (layout.root.map fun column =>
    (column.key, column.role.resolve mode (row.text column.key)))

theorem keys_rootRecord {mode : LiteralMode} (h : (layout.root.map RootColumn.key).Nodup) :
    (layout.rootRecord mode row).keys = layout.root.map RootColumn.key := by
  rw [rootRecord, Record.keys_ofList (by rwa [List.map_map]), List.map_map]
  rfl

theorem get?_rootRecord {mode : LiteralMode} (h : (layout.root.map RootColumn.key).Nodup)
    {column : RootColumn} (hc : column ∈ layout.root) :
    (layout.rootRecord mode row).get? column.key =
      some (column.role.resolve mode (row.text column.key)) :=
  Record.get?_ofList_map h hc

theorem expand_eq_ok_iff {e : Expansion} :
    expand c layout row index = .ok e ↔ layout.Covers row ∧ e =
      ⟨layout.rootRecord c.mode row, layout.junctions.map fun column => column.records c row⟩ := by
  unfold expand
  simp only [bind_eq_ok_iff, pure, Except.pure, Except.ok.injEq,
    mapM_eq_ok_iff_map fun _ _ => RootColumn.cell_eq_ok_iff,
    mapM_eq_ok_iff_map fun _ _ => JunctionColumn.rows_eq_ok_iff]
  constructor
  · rintro ⟨root, ⟨hroot, rfl⟩, junctions, ⟨hjunctions, rfl⟩, rfl⟩
    exact ⟨⟨hroot, hjunctions⟩, rfl⟩
  · rintro ⟨⟨hroot, hjunctions⟩, rfl⟩
    exact ⟨_, ⟨hroot, rfl⟩, _, ⟨hjunctions, rfl⟩, rfl⟩

def rootStatement (c : Config) (schema table : String) (layout : Layout) (rows : List Row) :
    Statement where
  schema := schema
  table := table
  columns := layout.root.map RootColumn.key
  rows := rows.map (layout.rootRecord c.mode)

end Layout

def JunctionColumn.statementOf (c : Config) (rows : List Row) (column : JunctionColumn) :
    Statement where
  schema := ""
  table := column.junction.table
  columns := [column.junction.ownerKey, column.junction.itemKey]
  rows := rows.flatMap (column.records c)

/-- The expansions keep the rows of the `k`-th junction column in their `k`-th place. -/
theorem Layout.batch_map_expansion (c : Config) (schema table : String) (layout : Layout)
    (rows : List Row) :
    layout.batch schema table (rows.map fun row =>
        ⟨layout.rootRecord c.mode row, layout.junctions.map fun column => column.records c row⟩) =
      ⟨layout.rootStatement c schema table rows ::
        layout.junctions.map (JunctionColumn.statementOf c rows)⟩ := by
  have hplace : ∀ p ∈ layout.junctions.zipIdx,
      p.1.statement (rows.map fun row => ⟨layout.rootRecord c.mode row,
        layout.junctions.map fun column => column.records c row⟩) p.2 =
      JunctionColumn.statementOf c rows p.1 := by
    intro p hp
    have hcolumn := List.mem_zipIdx_iff_getElem?.1 hp
    simp only [JunctionColumn.statement, JunctionColumn.statementOf, List.flatMap_map,
      List.getD_eq_getElem?_getD, List.getElem?_map, hcolumn, Option.map_some, Option.getD_some]
  have hjunctions : layout.junctions.zipIdx.map (fun p => JunctionColumn.statementOf c rows p.1) =
      layout.junctions.map (JunctionColumn.statementOf c rows) := by
    calc layout.junctions.zipIdx.map (fun p => JunctionColumn.statementOf c rows p.1)
        = (layout.junctions.zipIdx.map Prod.fst).map (JunctionColumn.statementOf c rows) := by
          rw [List.map_map]; rfl
      _ = _ := by rw [List.zipIdx_map_fst]
  rw [Layout.batch, List.map_congr_left hplace, hjunctions, List.map_map]
  rfl

/-- A batch exists exactly when the keys of the first row give a layout that covers every row. It
holds a map over the rows for the seeded table, and for each junction column the rows that the rows
become, one after the other. -/
theorem Batch.ofRows_eq_ok_iff {c : Config} {schema table : String} {rows : List Row} {b : Batch} :
    Batch.ofRows c schema table rows = .ok b ↔
      ∃ first rest layout, rows = first :: rest ∧
        Layout.ofKeys c.delimiters schema table first.keys = .ok layout ∧
        (∀ row ∈ rows, layout.Covers row) ∧
        b.statements = layout.rootStatement c schema table rows ::
          layout.junctions.map (JunctionColumn.statementOf c rows) := by
  cases rows with
  | nil => simp [ofRows]
  | cons first rest =>
    simp only [ofRows, bind_eq_ok_iff, pure, Except.pure, Except.ok.injEq]
    constructor
    · rintro ⟨layout, hlayout, expansions, hexpansions, rfl⟩
      obtain ⟨hcovers, rfl⟩ :=
        (mapM_zipIdx_eq_ok_iff_map (f := layout.expand c)
          fun _ _ _ => Layout.expand_eq_ok_iff).1 hexpansions
      exact ⟨first, rest, layout, rfl, hlayout, hcovers,
        congrArg Batch.statements (Layout.batch_map_expansion c schema table layout _)⟩
    · rintro ⟨_, _, layout, heq, hlayout, hcovers, hb⟩
      obtain ⟨rfl, rfl⟩ := List.cons_eq_cons.1 heq
      refine ⟨layout, hlayout, _,
        (mapM_zipIdx_eq_ok_iff_map (f := layout.expand c)
          fun _ _ _ => Layout.expand_eq_ok_iff).2 ⟨hcovers, rfl⟩, ?_⟩
      rw [Layout.batch_map_expansion, ← hb]

end SeedScript
