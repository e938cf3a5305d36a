import SeedScript.Batch
import SeedScript.Column
import SeedScript.Column.Junction
import SeedScript.Column.Subquery
import SeedScript.Config

/-!
# Layout of a batch

The keys of the first row decide what is done with the cells of every row. A layout keeps, for each
key, the lookups that it carries, so keys are read once.
-/

namespace SeedScript

/-- The keys of the seeded table's own columns. -/
def Delimiters.rootKeys (d : Delimiters) (keys : List String) : List String :=
  keys.filter fun key => (d.kind key).isRoot

/-- The keys of many-to-many columns. -/
def Delimiters.junctionKeys (d : Delimiters) (keys : List String) : List String :=
  keys.filter fun key => !(d.kind key).isRoot

/-! ## Columns of the seeded table -/

/-- What becomes of a cell of the seeded table. -/
inductive CellRole where
  | literal | hashed
  | lookup (l : Lookup)
  deriving DecidableEq, Repr

structure RootColumn where
  key : String
  role : CellRole
  deriving DecidableEq, Repr

/-- The role that a key gives to its column. -/
def RootColumn.ofKey (d : Delimiters) (key : String) : Except SeedError RootColumn :=
  match d.kind key with
  | .oneToMany => (Lookup.ofKey d key).map fun l => ⟨key, .lookup l⟩
  | .hashed => .ok ⟨key, .hashed⟩
  | _ => .ok ⟨key, .literal⟩

/-- A cell text resolved. Texts to be hashed are kept as they are, null tokens included. -/
def CellRole.resolve (mode : LiteralMode) : CellRole → String → Cell
  | .lookup l, text => .subquery (l.subquery mode text)
  | .hashed, text => .hashed text
  | .literal, text => if Literal.isNullToken text then .null else .literal text

/-! ## Columns that fill a junction table -/

/-- A many-to-many column with its two lookups. -/
structure JunctionColumn where
  key : String
  junction : Junction
  owner : Lookup
  item : Lookup
  deriving DecidableEq, Repr

/-- The junction that a key carries for rows of `schema.table`. -/
def JunctionColumn.ofKey (d : Delimiters) (schema table key : String) :
    Except SeedError JunctionColumn := do
  let junction ← Junction.ofKey d schema table key
  let owner ← Lookup.ofKey d junction.ownerKey
  let item ← Lookup.ofKey d junction.itemKey
  return ⟨key, junction, owner, item⟩

/-! ## All columns -/

/-- What is done with the cells of a row. -/
structure Layout where
  root : List RootColumn
  junctions : List JunctionColumn
  deriving DecidableEq, Repr

/-- The layout that the keys of the first row ask for. -/
def Layout.ofKeys (d : Delimiters) (schema table : String) (keys : List String) :
    Except SeedError Layout := do
  let root ← (d.rootKeys keys).mapM (RootColumn.ofKey d)
  let junctions ← (d.junctionKeys keys).mapM (JunctionColumn.ofKey d schema table)
  return ⟨root, junctions⟩

end SeedScript
