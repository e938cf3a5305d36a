import SeedScript.Delimiters
import SeedScript.Json.Value

/-!
# What can go wrong

One type for every cause that stops a seeding run, and the wording of each.
-/

namespace SeedScript

inductive DelimiterField where
  | oneToMany | manyToMany | rowItem
  deriving DecidableEq, Repr

def DelimiterField.name : DelimiterField → String
  | .oneToMany => "one_to_many_delimiter"
  | .manyToMany => "many_to_many_delimiter"
  | .rowItem => "row_item_delimiter"

inductive ConfigFault where
  /-- A delimiter is empty. -/
  | emptyDelimiter (field : DelimiterField)
  /-- The one-to-many delimiter contains the many-to-many delimiter. -/
  | overlapping (delimiters : Delimiters)
  deriving DecidableEq, Repr

def ConfigFault.message : ConfigFault → String
  | .emptyDelimiter field => field.name ++ " must not be empty"
  | .overlapping d =>
    DelimiterField.oneToMany.name ++ " '" ++ d.oneToMany ++ "' must not contain " ++
      DelimiterField.manyToMany.name ++ " '" ++ d.manyToMany ++ "'"

inductive SeedError where
  /-- There are no rows. -/
  | emptyInput
  /-- A column key that carries a relation has `found` segments instead of what `kind` asks for. -/
  | relationFormat (kind : RelationKind) (column delimiter : String) (found : Nat)
  /-- A cell of a JSON row is not a string. -/
  | cellType (row : Nat) (column : String) (found : Json.Kind)
  /-- A row lacks a column. -/
  | missingCell (row : Nat) (column : String)
  /-- Neither a table nor a function is named. -/
  | missingTable
  /-- A cell is to be hashed and there is no hash function. -/
  | missingHash (column : String)
  | invalidConfig (fault : ConfigFault)
  | json (fault : Json.Fault)
  | workbook
  /-- The generated SQL does not parse. -/
  | sqlCheck
  /-- The output cannot be written. -/
  | unwritable
  deriving DecidableEq, Repr

def SeedError.message : SeedError → String
  | .emptyInput => "input contains no rows"
  | .relationFormat kind column delimiter found =>
    "not a valid " ++ kind.name ++ " column name '" ++ column ++ "': expected " ++
      toString kind.segmentCount ++ " segments separated by '" ++ delimiter ++ "', found " ++
      toString found
  | .cellType row column found =>
    "row " ++ toString row ++ ": column '" ++ column ++ "' must hold a string, found " ++ found.name
  | .missingCell row column =>
    "row " ++ toString row ++ ": missing value for column '" ++ column ++ "'"
  | .missingTable => "a table name is required when no function name is given"
  | .missingHash column =>
    "column '" ++ column ++ "' is hash-marked but no hash function is configured"
  | .invalidConfig fault => "invalid configuration: " ++ fault.message
  | .json _ => "invalid JSON"
  | .workbook => "invalid Excel workbook"
  | .sqlCheck => "generated SQL does not parse"
  | .unwritable => "io error"

end SeedScript
