import SeedScript.Proofs.Sql.Rendering

/-!
# Inserts, and why one is not written

An `Insert` is a statement as it stands in SQL, before its parts are put together: a name for each
column and a tuple of texts for each row. What is written for a batch are the texts of such inserts
(`SqlStyle.exists_inserts_of_result`). A cell is not written when it is absent, or when it is to be
hashed without a hash function (`SqlStyle.failsWith_column`).
-/

namespace SeedScript

/-- A table, names of columns, and tuples of the texts of cells. -/
structure Insert where
  table : String
  names : List String
  tuples : List (List String)

def Insert.text (i : Insert) : String :=
  "INSERT INTO " ++ i.table ++ " " ++ SqlStyle.tuple i.names ++ " VALUES " ++
    ", ".intercalate (i.tuples.map SqlStyle.tuple) ++ ";"

namespace SqlStyle

variable {style : SqlStyle} {s : Statement} {b : Batch} {i : Insert} {sql : String}

/-- An insert has the base names of a statement's columns and, for each row and each column, what
is written for the cell that the row has under the column. -/
structure WritesAs (style : SqlStyle) (s : Statement) (i : Insert) : Prop where
  table_eq : i.table = Naming.qualified s.schema s.table
  names_eq : i.names = s.columns.map style.delimiters.baseName
  tuples_cells : List.Forall₂ (fun record tuple =>
    List.Forall₂ (fun key text => ∃ cell, record.get? key = some cell ∧
      (style.cell i.table key cell).result = .ok text) s.columns tuple) s.rows i.tuples

theorem WritesAs.length_tuple (h : style.WritesAs s i) {tuple : List String}
    (ht : tuple ∈ i.tuples) : tuple.length = i.names.length := by
  obtain ⟨record, -, hcells⟩ := exists_of_forall₂_of_mem h.tuples_cells ht
  rw [h.names_eq, List.length_map, hcells.length_eq]

theorem WritesAs.tuples_ne_nil (h : style.WritesAs s i) (hrows : s.rows ≠ []) : i.tuples ≠ [] := by
  intro htuples
  have hlength := h.tuples_cells.length_eq
  rw [htuples, List.length_nil, List.length_eq_zero_iff] at hlength
  exact hrows hlength

def insert (style : SqlStyle) (s : Statement) : Insert where
  table := Naming.qualified s.schema s.table
  names := s.columns.map style.delimiters.baseName
  tuples := s.rows.map fun record => s.columns.map (style.textAt record)

theorem text_insert (style : SqlStyle) (s : Statement) :
    (style.insert s).text = style.statementText s := by
  unfold insert Insert.text statementText
  rw [List.map_map]
  rfl

theorem writesAs_insert (h : style.WritesStatement s) : style.WritesAs s (style.insert s) where
  table_eq := rfl
  names_eq := rfl
  tuples_cells := by
    refine forall₂_map_self fun record hrecord => forall₂_map_self fun key hkey => ?_
    obtain ⟨cell, hcell, hwrites⟩ := h record hrecord key hkey
    exact ⟨cell, hcell, result_cell_eq_ok_iff.2 ⟨hwrites, textAt_of_get? hcell⟩⟩

theorem exists_insert_of_result (h : (style.statement s).result = .ok sql) :
    ∃ i, style.WritesAs s i ∧ sql = i.text := by
  obtain ⟨hwrites, rfl⟩ := result_statement_eq_ok_iff.1 h
  exact ⟨_, writesAs_insert hwrites, (text_insert style s).symm⟩

/-- What is written for a batch are the texts of inserts, one for each statement. -/
theorem exists_inserts_of_result (h : (style.batch b).result = .ok sql) :
    ∃ inserts, List.Forall₂ style.WritesAs b.statements inserts ∧
      sql = "\n".intercalate (inserts.map Insert.text) := by
  obtain ⟨hwrites, rfl⟩ := result_batch_eq_ok_iff.1 h
  refine ⟨b.statements.map style.insert,
    forall₂_map_self fun s hs => writesAs_insert (hwrites s hs), ?_⟩
  rw [List.map_map]
  congr 1
  exact List.map_congr_left fun s _ => (text_insert style s).symm

/-! ## Faults -/

/-- The fault of a cell: it is to be hashed and there is no hash function. -/
def cellFault? (style : SqlStyle) (key : String) : Cell → Option SeedError
  | .hashed _ => if style.hash?.isNone then some (.missingHash key) else none
  | _ => none

/-- The fault of a row under a key. -/
def keyFault? (style : SqlStyle) (record : Record Cell) (index : Nat) (key : String) :
    Option SeedError :=
  match record.get? key with
  | some cell => style.cellFault? key cell
  | none => some (.missingCell index key)

/-- The first fault of a statement, row by row and in the order of its columns. -/
def statementFault? (style : SqlStyle) (s : Statement) : Option SeedError :=
  s.rows.zipIdx.findSome? fun (record, index) => s.columns.findSome? (style.keyFault? record index)

theorem failsWith_cell (table key : String) (cell : Cell) :
    FailsWith (style.cell table key cell).result (style.cellFault? key cell) := by
  unfold SqlStyle.cell cellFault?
  cases cell with
  | null => exact .ok _
  | subquery sql => exact .ok _
  | hashed text =>
    cases style.hash? with
    | none =>
      intro e
      simp
    | some hash => exact .ok _
  | literal text =>
    dsimp only
    split
    · exact .ok _
    · exact .ok _

theorem failsWith_column (table key : String) (record : Record Cell) (index : Nat) :
    FailsWith (style.column table record index key).result (style.keyFault? record index key) := by
  unfold column keyFault?
  cases record.get? key with
  | none =>
    intro e
    simp
  | some cell => exact failsWith_cell table key cell

end SqlStyle

end SeedScript
