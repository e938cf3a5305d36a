import SeedScript.Error
import SeedScript.Json.Reader
import SeedScript.Record

/-!
# Rows as JSON

Rows are an array of objects whose values are strings. Of two members with one name the last counts,
in the place of the first. The whole text is read before the kinds of the cells are looked at.
-/

namespace SeedScript.Json

/-- A cell, which must be a string. -/
def cellText (index : Nat) (column : String) : Value → Except SeedError String
  | .string s => .ok s
  | v => .error (.cellType index column v.kind)

/-- An object as the row with number `index`. -/
def rowOfObject (index : Nat) (object : Record Value) : Except SeedError Row :=
  (object.entries.mapM fun (column, v) => (cellText index column v).map fun s => (column, s)).map
    Record.ofList

def rows (text : String) : Except SeedError (List Row) :=
  match document objectsValue text with
  | .error fault => .error (.json fault)
  | .ok objects =>
    objects.zipIdx.mapM fun (members, index) => rowOfObject index (Record.ofList members)

end SeedScript.Json
