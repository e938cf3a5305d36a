import SeedScript.Delimiters

/-!
# Kinds of column

The text of a column key says how its cells are used. The many-to-many delimiter is looked for
first, then the one-to-many delimiter, then a single hash mark.
-/

namespace SeedScript

inductive ColumnKind where
  /-- A cell is a literal. -/
  | plain
  /-- A cell is a literal that passes through the hash function. -/
  | hashed
  /-- A cell is looked up in another table. -/
  | oneToMany
  /-- A cell holds items, and each becomes a row of a junction table. -/
  | manyToMany
  deriving DecidableEq, Repr

/-- Whether the column belongs to the seeded table itself. -/
def ColumnKind.isRoot (kind : ColumnKind) : Bool := kind != .manyToMany

/-- Whether a key has exactly one hash mark. -/
def isHashMarked (key : String) : Bool := key.toList.count '#' == 1

namespace Delimiters

def isManyToMany (d : Delimiters) (key : String) : Bool := Text.contains key d.manyToMany

/-- Whether a key contains the one-to-many delimiter and not the many-to-many one. -/
def isOneToMany (d : Delimiters) (key : String) : Bool :=
  !d.isManyToMany key && Text.contains key d.oneToMany

def kind (d : Delimiters) (key : String) : ColumnKind :=
  if d.isManyToMany key then .manyToMany
  else if d.isOneToMany key then .oneToMany
  else if isHashMarked key then .hashed
  else .plain

/-- The column name that a key stands for in SQL: its first segment when it carries a lookup, else
what precedes its hash mark. -/
def baseName (d : Delimiters) (key : String) : String :=
  if d.isOneToMany key then (d.segments .oneToMany key).headD key
  else if isHashMarked key then String.ofList (key.toList.takeWhile (· != '#'))
  else key

theorem kind_eq_manyToMany_iff (d : Delimiters) (key : String) :
    d.kind key = .manyToMany ↔ d.isManyToMany key = true := by
  unfold kind
  split
  · simp_all
  · split
    · simp_all
    · split <;> simp_all

theorem kind_eq_oneToMany_iff (d : Delimiters) (key : String) :
    d.kind key = .oneToMany ↔ d.isOneToMany key = true := by
  unfold kind
  split
  · simp_all [isOneToMany]
  · split
    · simp_all
    · split <;> simp_all

theorem isRoot_kind (d : Delimiters) (key : String) :
    (d.kind key).isRoot = !d.isManyToMany key := by
  have h := d.kind_eq_manyToMany_iff key
  cases hm : d.isManyToMany key <;> simp_all [ColumnKind.isRoot]

end Delimiters

end SeedScript
