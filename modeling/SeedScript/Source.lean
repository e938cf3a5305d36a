import SeedScript.Csv.Rows
import SeedScript.Json.Rows
import SeedScript.Workbook

/-!
# Sources of rows

Rows come from a JSON text, from comma separated values or from a workbook.
-/

namespace SeedScript

inductive Source where
  | json (text : String)
  | csv (text : String) (rename : Record String)
  /-- A file that should be a workbook, and the name of the sheet to read. -/
  | workbook (contents? : Option Workbook) (sheet? : Option String) (rename : Record String)

def Source.rows : Source → Except SeedError (List Row)
  | .json text => Json.rows text
  | .csv text rename => Csv.rows rename text
  | .workbook (some contents) sheet? rename => contents.rows sheet? rename
  | .workbook none _ _ => .error .workbook

end SeedScript
