import SeedScript.Text.Split

/-!
# Delimiters of a column key

A column key may carry a relation: three segments apart by one delimiter, or five segments apart by
another.
-/

namespace SeedScript

/-- The two relations that a column key can carry. -/
inductive RelationKind where
  | oneToMany | manyToMany
  deriving DecidableEq, Repr

def RelationKind.name : RelationKind → String
  | .oneToMany => "one-to-many"
  | .manyToMany => "many-to-many"

def RelationKind.segmentCount : RelationKind → Nat
  | .oneToMany => 3
  | .manyToMany => 5

/-- The texts that separate the segments of a column key. -/
structure Delimiters where
  oneToMany : String
  manyToMany : String
  deriving DecidableEq, Repr

def Delimiters.of (d : Delimiters) : RelationKind → String
  | .oneToMany => d.oneToMany
  | .manyToMany => d.manyToMany

/-- The segments of a key under the delimiter of a relation. -/
def Delimiters.segments (d : Delimiters) (kind : RelationKind) (key : String) : List String :=
  Text.split (d.of kind) key

/-- Two stars and three stars. -/
def Delimiters.standard : Delimiters := ⟨"**", "***"⟩

end SeedScript
