import SeedScript.Batch
import SeedScript.Column
import SeedScript.Literal
import SeedScript.Logged
import SeedScript.Naming

/-!
# Statements as SQL

Each statement is one `INSERT`. Its column list holds the base names of the column keys, and each
row is a tuple of the cells under these keys.
-/

namespace SeedScript

structure SqlStyle where
  delimiters : Delimiters
  mode : LiteralMode
  hash? : Option (String → String)

namespace SqlStyle

/-- A resolved cell as SQL. Compat mode warns of a text that it takes for an expression. -/
def cell (style : SqlStyle) (table column : String) : Cell → Logged String
  | .null => pure "NULL"
  | .subquery sql => pure sql
  | .hashed text =>
    match style.hash? with
    | some hash => pure (style.mode.enclose (hash text))
    | none => .fail (.missingHash column)
  | .literal text =>
    if style.mode = .compat ∧ Literal.isExpression text then
      .warn ⟨table, column, text⟩ (style.mode.literal text)
    else pure (style.mode.literal text)

/-- The cell of a row under a column key; `index` is the number of the row. -/
def column (style : SqlStyle) (table : String) (row : Record Cell) (index : Nat) (key : String) :
    Logged String :=
  match row.get? key with
  | some value => style.cell table key value
  | none => .fail (.missingCell index key)

/-- Texts separated by commas, in parentheses. -/
def tuple (items : List String) : String := "(" ++ ", ".intercalate items ++ ")"

/-- A row as a tuple of its cells under the columns of a statement. -/
def row (style : SqlStyle) (table : String) (columns : List String) (row : Record Cell)
    (index : Nat) : Logged String := do
  let cells ← columns.mapM (style.column table row index)
  return tuple cells

def statement (style : SqlStyle) (s : Statement) : Logged String := do
  let table := Naming.qualified s.schema s.table
  let tuples ← s.rows.zipIdx.mapM fun (r, index) => style.row table s.columns r index
  return "INSERT INTO " ++ table ++ " " ++ tuple (s.columns.map style.delimiters.baseName) ++
    " VALUES " ++ ", ".intercalate tuples ++ ";"

/-- A batch as SQL, one statement a line. -/
def batch (style : SqlStyle) (b : Batch) : Logged String := do
  let statements ← b.statements.mapM style.statement
  return "\n".intercalate statements

end SqlStyle

end SeedScript
