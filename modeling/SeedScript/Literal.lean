/-!
# SQL literals

In compat mode a text with an opening parenthesis is taken for an SQL expression and quotes inside
a text stand as they are; in strict mode every text is quoted and its quotes are doubled.
-/

namespace SeedScript

/-- How texts are written as SQL literals. -/
inductive LiteralMode where
  | compat | strict
  deriving DecidableEq, Repr

namespace Literal

/-- Whether a cell text stands for SQL's null. -/
def isNullToken (text : String) : Bool := text == "" || text == "NULL" || text == "null"

/-- Whether compat mode takes a text for an SQL expression. -/
def isExpression (text : String) : Bool := text.toList.contains '('

/-- Every single quote is written twice. -/
def doubleQuotes : List Char → List Char
  | [] => []
  | c :: cs => if c = '\'' then '\'' :: '\'' :: doubleQuotes cs else c :: doubleQuotes cs

/-- A text with its single quotes doubled. -/
def escape (text : String) : String := String.ofList (doubleQuotes text.toList)

/-- A text between single quotes, as it is. -/
def enclose (text : String) : String := "'" ++ text ++ "'"

def quote (text : String) : String := enclose (escape text)

theorem toList_quote (text : String) :
    (quote text).toList = '\'' :: doubleQuotes text.toList ++ ['\''] := by
  simp [quote, enclose, escape]

end Literal

/-- A text between quotes, which strict mode also doubles inside it. -/
def LiteralMode.enclose : LiteralMode → String → String
  | .compat, text => Literal.enclose text
  | .strict, text => Literal.quote text

/-- A cell text as an SQL literal. -/
def LiteralMode.literal (mode : LiteralMode) (text : String) : String :=
  if Literal.isNullToken text then "NULL"
  else if mode = .compat ∧ Literal.isExpression text then text
  else mode.enclose text

end SeedScript
