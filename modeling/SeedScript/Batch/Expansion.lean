import SeedScript.Batch.Layout

/-!
# Rows become statements

Each row gives one row of the seeded table and, for each many-to-many column, one junction row for
each of its items. The rows of a junction statement are those of all input rows, in order.
-/

namespace SeedScript

/-- The cell of a row under a key; `index` is the number of the row. -/
def Row.cell (row : Row) (index : Nat) (key : String) : Except SeedError String :=
  match row.get? key with
  | some text => .ok text
  | none => .error (.missingCell index key)

def RootColumn.cell (mode : LiteralMode) (row : Row) (index : Nat) (column : RootColumn) :
    Except SeedError (String × Cell) :=
  (row.cell index column.key).map fun text => (column.key, column.role.resolve mode text)

/-- The junction row that joins an owner to an item. -/
def JunctionColumn.join (mode : LiteralMode) (column : JunctionColumn) (owner item : String) :
    Record Cell :=
  .ofList [(column.junction.ownerKey, .subquery (column.owner.subquery mode owner)),
    (column.junction.itemKey, .subquery (column.item.subquery mode item))]

/-- The junction rows of a row: one for each item of its cell. -/
def JunctionColumn.rows (c : Config) (row : Row) (index : Nat) (column : JunctionColumn) :
    Except SeedError (List (Record Cell)) := do
  let items ← row.cell index column.key
  let owner ← row.cell index column.junction.firstSearchKey
  return (Text.split c.rowItemDelimiter items).map (column.join c.mode owner)

/-- What one row contributes: a row of the seeded table, and rows of each junction table. -/
structure Expansion where
  root : Record Cell
  junctions : List (List (Record Cell))
  deriving DecidableEq, Repr

def Layout.expand (c : Config) (layout : Layout) (row : Row) (index : Nat) :
    Except SeedError Expansion := do
  let root ← layout.root.mapM (RootColumn.cell c.mode row index)
  let junctions ← layout.junctions.mapM (JunctionColumn.rows c row index)
  return ⟨.ofList root, junctions⟩

/-- The statement for the `k`-th junction column. -/
def JunctionColumn.statement (expansions : List Expansion) (column : JunctionColumn) (k : Nat) :
    Statement where
  schema := ""
  table := column.junction.table
  columns := [column.junction.ownerKey, column.junction.itemKey]
  rows := expansions.flatMap fun e => e.junctions.getD k []

/-- The statements that hold the contributions of all rows. -/
def Layout.batch (schema table : String) (layout : Layout) (expansions : List Expansion) :
    Batch where
  statements :=
    { schema
      table
      columns := layout.root.map RootColumn.key
      rows := expansions.map Expansion.root } ::
    layout.junctions.zipIdx.map fun (column, k) => column.statement expansions k

/-- The statements for rows seeded into `schema.table`. -/
def Batch.ofRows (c : Config) (schema table : String) (rows : List Row) :
    Except SeedError Batch :=
  match rows with
  | [] => .error .emptyInput
  | first :: _ => do
    let layout ← Layout.ofKeys c.delimiters schema table first.keys
    let expansions ← rows.zipIdx.mapM fun (row, index) => layout.expand c row index
    return layout.batch schema table expansions

end SeedScript
