import SeedScript.Error

/-!
# Lookups in another table

A one-to-many key names a primary key, a table and the column to search, in this order.
-/

namespace SeedScript

/-- Selects `primaryKey` from the row of `table` whose `searchKey` holds a value. -/
structure Lookup where
  table : String
  primaryKey : String
  searchKey : String
  deriving DecidableEq, Repr

/-- The column key that carries a lookup. -/
def Lookup.key (d : Delimiters) (l : Lookup) : String :=
  l.primaryKey ++ d.oneToMany ++ l.table ++ d.oneToMany ++ l.searchKey

/-- The lookup that a column key carries. -/
def Lookup.ofKey (d : Delimiters) (key : String) : Except SeedError Lookup :=
  match d.segments .oneToMany key with
  | [primaryKey, table, searchKey] => .ok ⟨table, primaryKey, searchKey⟩
  | segments => .error (.relationFormat .oneToMany key d.oneToMany segments.length)

end SeedScript
