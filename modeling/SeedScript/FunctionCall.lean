import SeedScript.Error
import SeedScript.Json.Writer
import SeedScript.Literal
import SeedScript.Record

/-!
# Rows as an argument

All rows may be handed to an SQL function at once, as a JSON array of objects.
-/

namespace SeedScript

def Row.json (row : Row) : Json.Value :=
  .object (row.entries.map fun (key, text) => (key, .string text))

def Row.jsonArray (rows : List Row) : Json.Value := .array (rows.map Row.json)

/-- The call of an SQL function with rows as its only argument. -/
def functionCall (function : String) (rows : List Row) : Except SeedError String :=
  if rows.isEmpty then .error .emptyInput
  else
    .ok ("SELECT " ++ function ++ "(" ++ Literal.quote (Row.jsonArray rows).text ++ "::JSONB);")

end SeedScript
