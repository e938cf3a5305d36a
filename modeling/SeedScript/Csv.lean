/-!
# Comma separated values

Fields are separated by commas and records by line ends, of which empty ones are skipped. A quote
counts only at the start of a field: it hides commas and line ends up to the next single quote. In
such a field a doubled quote stands for one, and what follows the closing quote is added to the
field. The end of the text ends every field.
-/

namespace SeedScript.Csv

/-- Where in a record a character stands. -/
inductive Position where
  /-- Before the first character of a record. -/
  | recordStart
  /-- Before the first character of a later field. -/
  | fieldStart
  /-- In a field, outside quotes. -/
  | bare
  /-- Inside quotes. -/
  | quoted
  /-- After a quote inside quotes: the closing one, or the first of two. -/
  | afterQuote
  deriving DecidableEq, Repr

def isLineEnd (c : Char) : Bool := c == '\n' || c == '\r'

/-- The records of a text. `field` holds the characters of the open field and `fields` the closed
fields of the open record, both back to front. -/
def scan : Position → (field : List Char) → (fields : List (List Char)) → List Char →
    List (List (List Char))
  | .recordStart, _, _, [] => []
  | .fieldStart, field, fields, [] => [(field.reverse :: fields).reverse]
  | .bare, field, fields, [] => [(field.reverse :: fields).reverse]
  | .quoted, field, fields, [] => [(field.reverse :: fields).reverse]
  | .afterQuote, field, fields, [] => [(field.reverse :: fields).reverse]
  | .recordStart, field, fields, c :: cs =>
    if isLineEnd c then scan .recordStart field fields cs
    else if c = '"' then scan .quoted field fields cs
    else if c = ',' then scan .fieldStart [] (field.reverse :: fields) cs
    else scan .bare (c :: field) fields cs
  | .fieldStart, field, fields, c :: cs =>
    if isLineEnd c then (field.reverse :: fields).reverse :: scan .recordStart [] [] cs
    else if c = '"' then scan .quoted field fields cs
    else if c = ',' then scan .fieldStart [] (field.reverse :: fields) cs
    else scan .bare (c :: field) fields cs
  | .bare, field, fields, c :: cs =>
    if isLineEnd c then (field.reverse :: fields).reverse :: scan .recordStart [] [] cs
    else if c = ',' then scan .fieldStart [] (field.reverse :: fields) cs
    else scan .bare (c :: field) fields cs
  | .quoted, field, fields, c :: cs =>
    if c = '"' then scan .afterQuote field fields cs
    else scan .quoted (c :: field) fields cs
  | .afterQuote, field, fields, c :: cs =>
    if c = '"' then scan .quoted ('"' :: field) fields cs
    else if isLineEnd c then (field.reverse :: fields).reverse :: scan .recordStart [] [] cs
    else if c = ',' then scan .fieldStart [] (field.reverse :: fields) cs
    else scan .bare (c :: field) fields cs

/-- A text without a byte order mark in front. -/
def afterMark : List Char → List Char
  | '\ufeff' :: cs => cs
  | cs => cs

/-- The records of a text; a byte order mark in front is not part of it. -/
def records (text : String) : List (List String) :=
  (scan .recordStart [] [] (afterMark text.toList)).map fun record => record.map String.ofList

end SeedScript.Csv
