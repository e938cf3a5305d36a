import SeedScript.Proofs.Traversal
import SeedScript.Sql.Style

/-!
# The text of a batch

Writing stops at the first cell that is absent from its row, and at the first cell to be hashed when
there is no hash function. When there is no such cell, the text is a plain function of the cells
(`SqlStyle.result_batch_eq_ok_iff`). Warnings do not change it.
-/

namespace SeedScript.SqlStyle

variable {style : SqlStyle} {table key sql : String} {index : Nat} {record : Record Cell}

/-! ## Cells -/

def cellText (style : SqlStyle) : Cell → String
  | .null => "NULL"
  | .subquery sql => sql
  | .hashed text => style.mode.enclose (style.hash?.getD id text)
  | .literal text => style.mode.literal text

/-- Only a cell to be hashed needs a hash function. -/
def Writes (style : SqlStyle) : Cell → Prop
  | .hashed _ => style.hash?.isSome
  | _ => True

theorem result_cell_eq_ok_iff {value : Cell} :
    (style.cell table key value).result = .ok sql ↔
      style.Writes value ∧ sql = style.cellText value := by
  unfold cell Writes cellText
  cases value with
  | null => rw [Logged.result_pure, Except.ok.injEq, eq_comm, true_and]
  | subquery s => rw [Logged.result_pure, Except.ok.injEq, eq_comm, true_and]
  | hashed text =>
    cases style.hash? with
    | none => simp
    | some hash =>
      simp only [Logged.result_pure, Except.ok.injEq, Option.isSome_some, true_and,
        Option.getD_some]
      exact eq_comm
  | literal text =>
    simp only [true_and]
    split
    · rw [Logged.result_warn, Except.ok.injEq, eq_comm]
    · rw [Logged.result_pure, Except.ok.injEq, eq_comm]

/-- The text of the cell of a row under a key, empty when there is none. -/
def textAt (style : SqlStyle) (record : Record Cell) (key : String) : String :=
  ((record.get? key).map style.cellText).getD ""

/-- A row has a cell under a key, and it can be written. -/
def WritesAt (style : SqlStyle) (record : Record Cell) (key : String) : Prop :=
  ∃ value, record.get? key = some value ∧ style.Writes value

theorem textAt_of_get? {value : Cell} (h : record.get? key = some value) :
    style.textAt record key = style.cellText value := by
  rw [textAt, h]
  rfl

theorem result_column_eq_ok_iff :
    (style.column table record index key).result = .ok sql ↔
      style.WritesAt record key ∧ sql = style.textAt record key := by
  unfold column WritesAt textAt
  cases record.get? key with
  | none => simp
  | some value => simp [result_cell_eq_ok_iff]

/-! ## Rows, statements and batches -/

/-- The text of a row under the columns of a statement. -/
def rowText (style : SqlStyle) (columns : List String) (record : Record Cell) : String :=
  tuple (columns.map (style.textAt record))

theorem result_row_eq_ok_iff {columns : List String} :
    (style.row table columns record index).result = .ok sql ↔
      (∀ key ∈ columns, style.WritesAt record key) ∧ sql = style.rowText columns record := by
  unfold row rowText
  rw [Logged.result_bind, bind_eq_ok_iff, Logged.result_mapM]
  simp only [mapM_eq_ok_iff_map fun _ _ => result_column_eq_ok_iff, Logged.result_pure,
    Except.ok.injEq]
  constructor
  · rintro ⟨cells, ⟨hwrites, rfl⟩, rfl⟩
    exact ⟨hwrites, rfl⟩
  · rintro ⟨hwrites, rfl⟩
    exact ⟨_, ⟨hwrites, rfl⟩, rfl⟩

def statementText (style : SqlStyle) (s : Statement) : String :=
  "INSERT INTO " ++ Naming.qualified s.schema s.table ++ " " ++
    tuple (s.columns.map style.delimiters.baseName) ++ " VALUES " ++
    ", ".intercalate (s.rows.map (style.rowText s.columns)) ++ ";"

/-- Every row of a statement can be written under its columns. -/
def WritesStatement (style : SqlStyle) (s : Statement) : Prop :=
  ∀ record ∈ s.rows, ∀ key ∈ s.columns, style.WritesAt record key

theorem result_statement_eq_ok_iff {s : Statement} :
    (style.statement s).result = .ok sql ↔
      style.WritesStatement s ∧ sql = style.statementText s := by
  unfold statement statementText WritesStatement
  rw [Logged.result_bind, bind_eq_ok_iff, Logged.result_mapM]
  simp only [Logged.result_pure, Except.ok.injEq, mapM_zipIdx_eq_ok_iff_map
    (f := fun r k => (style.row (Naming.qualified s.schema s.table) s.columns r k).result)
    fun _ _ _ => result_row_eq_ok_iff]
  constructor
  · rintro ⟨tuples, ⟨hwrites, rfl⟩, rfl⟩
    exact ⟨hwrites, rfl⟩
  · rintro ⟨hwrites, rfl⟩
    exact ⟨_, ⟨hwrites, rfl⟩, rfl⟩

theorem result_batch_eq_ok_iff {b : Batch} :
    (style.batch b).result = .ok sql ↔
      (∀ s ∈ b.statements, style.WritesStatement s) ∧
        sql = "\n".intercalate (b.statements.map style.statementText) := by
  unfold batch
  rw [Logged.result_bind, bind_eq_ok_iff, Logged.result_mapM]
  simp only [mapM_eq_ok_iff_map fun _ _ => result_statement_eq_ok_iff, Logged.result_pure,
    Except.ok.injEq]
  constructor
  · rintro ⟨texts, ⟨hwrites, rfl⟩, rfl⟩
    exact ⟨hwrites, rfl⟩
  · rintro ⟨hwrites, rfl⟩
    exact ⟨_, ⟨hwrites, rfl⟩, rfl⟩

end SeedScript.SqlStyle
