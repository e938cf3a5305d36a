import SeedScript.Column.Lookup
import SeedScript.Literal

/-!
# Lookups as subqueries

A lookup of a value is a parenthesised `SELECT`. A star stands for every row of the table.
-/

namespace SeedScript

/-- The subquery that finds the row in which the search column holds `value`. -/
def Lookup.subquery (mode : LiteralMode) (l : Lookup) (value : String) : String :=
  if value = "*" then "(SELECT " ++ l.primaryKey ++ " FROM " ++ l.table ++ ")"
  else
    "(SELECT " ++ l.primaryKey ++ " FROM " ++ l.table ++ " WHERE " ++ l.searchKey ++ " = " ++
      mode.enclose value ++ ")"

/-- The subquery for a cell under a one-to-many column key. -/
def Lookup.subqueryOfKey (d : Delimiters) (mode : LiteralMode) (key value : String) :
    Except SeedError String :=
  (Lookup.ofKey d key).map fun l => l.subquery mode value

end SeedScript
