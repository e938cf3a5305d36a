import SeedScript.Error
import SeedScript.Record
import SeedScript.Text.Blank
import SeedScript.Text.Lowercase

/-!
# Tables with a header

The first record of a table names its columns. Names are trimmed and put in lower case, and may then
be replaced. A record that is too short is filled up with empty texts, one that is too long is cut.
Where two columns have one name, the last cell counts, in the place of the first.
-/

namespace SeedScript.Table

/-- The column key that a header text stands for. -/
def columnKey (rename : Record String) (header : String) : String :=
  let name := Text.lowercase (Text.trim header)
  (rename.get? name).getD name

/-- A record as a row under column keys. -/
def rowOf (columns : List String) (record : List String) : Row :=
  .ofList (columns.zipIdx.map fun (key, index) => (key, record.getD index ""))

/-- The rows of a table; a table without records is refused. -/
def rows (columns : List String) (records : List (List String)) : Except SeedError (List Row) :=
  if records.isEmpty then .error .emptyInput else .ok (records.map (rowOf columns))

end SeedScript.Table
