import SeedScript.Csv
import SeedScript.Table

/-!
# Rows as comma separated values

The first record is the header.
-/

namespace SeedScript.Csv

def rows (rename : Record String) (text : String) : Except SeedError (List Row) :=
  match records text with
  | [] => .error .emptyInput
  | header :: records => Table.rows (header.map (Table.columnKey rename)) records

end SeedScript.Csv
