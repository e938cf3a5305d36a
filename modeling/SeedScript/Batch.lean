import SeedScript.Record

/-!
# Batches of statements

A batch is what a list of rows becomes before it is written as SQL: a statement for the seeded
table, then one for each junction table. Cells are resolved, and columns still carry the keys that
say how.
-/

namespace SeedScript

inductive Cell where
  /-- A text, quoted when it is written. -/
  | literal (text : String)
  /-- A text that passes through the hash function before it is quoted. -/
  | hashed (text : String)
  /-- SQL that is written as it is. -/
  | subquery (sql : String)
  | null
  deriving DecidableEq, Repr

/-- The rows inserted into one table. -/
structure Statement where
  /-- Empty when the table is named without a schema. -/
  schema : String
  table : String
  columns : List String
  rows : List (Record Cell)
  deriving DecidableEq, Repr

/-- Statements in the order in which they are written. -/
structure Batch where
  statements : List Statement
  deriving DecidableEq, Repr

/-- The statement for the seeded table. -/
def Batch.root? (b : Batch) : Option Statement := b.statements.head?

/-- The statements for junction tables. -/
def Batch.junctions (b : Batch) : List Statement := b.statements.tail

def Batch.rowCount (b : Batch) : Nat := (b.statements.flatMap Statement.rows).length

end SeedScript
