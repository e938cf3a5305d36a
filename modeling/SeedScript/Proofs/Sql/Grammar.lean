import SeedScript.Proofs.Sql.Inserts
import SeedScript.Sql.Check

/-!
# Inserts as syntax

The inserts of strict mode have few forms: bare names, names of tables, and cells that are null, a
quoted text or a subquery for a column of all rows or of the rows that hold a text. Each form is
given with its text and with the words that the text consists of.
-/

namespace SeedScript.Sql

/-! ## Names -/

/-- A text that is one bare name. -/
def IsBareName (text : String) : Prop :=
  (∃ c ∈ text.toList.head?, isNameStart c = true) ∧ ∀ c ∈ text.toList, isNameChar c = true

instance (text : String) : Decidable (IsBareName text) :=
  @instDecidableAnd _ _ (Option.decidableExistsMem text.toList.head?)
    (List.decidableBAll (fun c => isNameChar c = true) text.toList)

structure BareName where
  text : String
  isBareName : IsBareName text

/-- The name of a table, perhaps after that of its schema. -/
structure TableName where
  schema? : Option BareName
  table : BareName

namespace TableName

def text : TableName → String
  | ⟨none, table⟩ => table.text
  | ⟨some schema, table⟩ => schema.text ++ "." ++ table.text

def words : TableName → List Token
  | ⟨none, table⟩ => [.word table.text]
  | ⟨some schema, table⟩ => [.word schema.text, .sign '.', .word table.text]

end TableName

/-! ## Lists -/

def commas (tss : List (List Token)) : List Token := [Token.sign ','].intercalate tss

theorem commas_singleton (ts : List Token) : commas [ts] = ts := List.intercalate_singleton

theorem commas_cons_cons (ts us : List Token) (tss : List (List Token)) :
    commas (ts :: us :: tss) = ts ++ .sign ',' :: commas (us :: tss) := by
  rw [commas, List.intercalate_cons_cons, List.append_assoc]
  rfl

def parens (ts : List Token) : List Token := .sign '(' :: ts ++ [.sign ')']

theorem parens_append (ts rest : List Token) :
    parens ts ++ rest = .sign '(' :: (ts ++ .sign ')' :: rest) := by
  rw [parens, List.append_assoc]
  rfl

/-! ## Cells -/

/-- A cell of a tuple. -/
inductive Operand where
  | null
  | text (value : String)
  /-- A column of every row of a table. -/
  | column (column : BareName) (table : TableName)
  /-- A column of the rows that hold a value. -/
  | lookup (column : BareName) (table : TableName) (search : BareName) (value : String)

namespace Operand

def sql : Operand → String
  | null => "NULL"
  | text value => Literal.quote value
  | column c t => "(SELECT " ++ c.text ++ " FROM " ++ t.text ++ ")"
  | lookup c t s value =>
    "(SELECT " ++ c.text ++ " FROM " ++ t.text ++ " WHERE " ++ s.text ++ " = " ++
      Literal.quote value ++ ")"

def words : Operand → List Token
  | null => [.word "NULL"]
  | text value => [.text value]
  | column c t => parens ([.word "SELECT", .word c.text, .word "FROM"] ++ t.words)
  | lookup c t s value =>
    parens ([.word "SELECT", .word c.text, .word "FROM"] ++ t.words ++
      [.word "WHERE", .word s.text, .sign '=', .text value])

end Operand

/-! ## Inserts -/

/-- An insert of at least one tuple, none of them empty, under at least one name. -/
structure Insertion where
  table : TableName
  columns : List BareName
  tuples : List (List Operand)
  columns_ne_nil : columns ≠ []
  tuples_ne_nil : tuples ≠ []
  tuple_ne_nil : ∀ tuple ∈ tuples, tuple ≠ []

namespace Insertion

/-- The texts of the parts of an insert. -/
def toInsert (i : Insertion) : Insert where
  table := i.table.text
  names := i.columns.map BareName.text
  tuples := i.tuples.map (List.map Operand.sql)

def sql (i : Insertion) : String := i.toInsert.text

def tupleWords (tuple : List Operand) : List Token := parens (commas (tuple.map Operand.words))

/-- The words of an insert without the semicolon after it. -/
def words (i : Insertion) : List Token :=
  [.word "INSERT", .word "INTO"] ++ i.table.words ++
    parens (commas (i.columns.map fun c => [.word c.text])) ++ [.word "VALUES"] ++
      commas (i.tuples.map tupleWords)

end Insertion

end SeedScript.Sql
