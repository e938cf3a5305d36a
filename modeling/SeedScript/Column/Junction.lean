import SeedScript.Column.Lookup
import SeedScript.Naming

/-!
# Junction tables

A many-to-many key names the key column of the joined table, the junction table, the joined table,
the column to search in it, and the column that identifies a seeded row. Each junction row has two
columns, and each of them is a lookup again: one for the seeded row and one for the item.
-/

namespace SeedScript

/-- Joins the seeded table to a second table through a junction table. -/
structure Junction where
  table : String
  /-- The seeded table. -/
  firstTable : String
  secondTable : String
  /-- Column of the seeded row that identifies it. -/
  firstSearchKey : String
  /-- Column of the second table that an item is compared with. -/
  secondSearchKey : String
  /-- Finds the seeded row. -/
  ownerKey : String
  /-- Finds the row that an item names. -/
  itemKey : String
  deriving DecidableEq, Repr

/-- The lookup of a row of `schema.table` by `searchKey`. -/
def Lookup.ofOwner (schema table searchKey : String) : Lookup :=
  ⟨Naming.qualified schema table, Naming.primaryKey table, searchKey⟩

/-- The junction that a column key carries for rows of `schema.table`. -/
def Junction.ofKey (d : Delimiters) (schema table key : String) : Except SeedError Junction :=
  match d.segments .manyToMany key with
  | [joinKey, joinTable, secondTable, secondSearchKey, firstSearchKey] =>
    .ok {
      table := joinTable
      firstTable := table
      secondTable
      firstSearchKey
      secondSearchKey
      ownerKey := (Lookup.ofOwner schema table firstSearchKey).key d
      itemKey := Lookup.key d ⟨secondTable, joinKey, secondSearchKey⟩ }
  | segments => .error (.relationFormat .manyToMany key d.manyToMany segments.length)

end SeedScript
