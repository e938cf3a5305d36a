import SeedScript.Naming.Singular

/-!
# Names of tables and of their keys

A table is written after its schema and a dot when it has a schema. Its primary key is the singular
of its name followed by `_id`.
-/

namespace SeedScript.Naming

/-- The name of a table as it stands in SQL. -/
def qualified (schema table : String) : String :=
  if schema.isEmpty then table else schema ++ "." ++ table

def primaryKey (table : String) : String := singular table ++ "_id"

@[simp] theorem qualified_empty (table : String) : qualified "" table = table := rfl

end SeedScript.Naming
