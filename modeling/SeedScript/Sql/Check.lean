import SeedScript.Error
import SeedScript.Sql.Token

/-!
# Checking SQL

The part of SQL that seeding needs: `INSERT` of tuples into a table, and `SELECT` of an expression.
A parser of a phrase gives what is left after it, or nothing when the phrase does not stand there.
-/

namespace SeedScript.Sql

/-- A statement, with what is asked about it. -/
inductive Query where
  | insert (table : String)
  | select
  deriving DecidableEq, Repr

/-- A parser of a phrase. -/
abbrev Phrase := List Token → Option (List Token)

def sign (c : Char) : Phrase
  | .sign d :: ts => if d = c then some ts else none
  | _ => none

/-- A keyword, given in lower case, in any case. -/
def keyword (k : String) : Phrase
  | .word s :: ts => if s.map Char.toLower = k then some ts else none
  | _ => none

/-- The name that a word stands for. -/
def Token.name? : Token → Option String
  | .word s => some s
  | .quotedName s => some s
  | _ => none

/-- A bare or quoted name. -/
def identifier : Phrase
  | t :: ts => if t.name?.isSome then some ts else none
  | [] => none

/-- The parts of a name that follow points. -/
def nameParts : List Token → List String × List Token
  | .sign '.' :: t :: ts =>
    match t.name? with
    | some s => (s :: (nameParts ts).1, (nameParts ts).2)
    | none => ([], .sign '.' :: t :: ts)
  | ts => ([], ts)

/-- A name with points in it, as it is written. -/
def name : List Token → Option (String × List Token)
  | t :: ts =>
    t.name?.map fun s => (".".intercalate (s :: (nameParts ts).1), (nameParts ts).2)
  | [] => none

/-- One or more phrases with commas between them. -/
def commaSeparated (phrase : Phrase) : (bound : Nat) → Phrase
  | 0, _ => none
  | bound + 1, ts =>
    match phrase ts with
    | some (.sign ',' :: rest) => commaSeparated phrase bound rest
    | r => r

/-- One or more phrases with commas between them, in parentheses. -/
def parenthesised (phrase : Phrase) : Phrase := fun ts => do
  let ts ← sign '(' ts
  let ts ← commaSeparated phrase ts.length ts
  sign ')' ts

/-- Casts that follow an expression. -/
def casts : List Token → List Token
  | .cast :: .word _ :: ts => casts ts
  | ts => ts

/-- What follows the keyword of a `SELECT`: an expression, and perhaps a table and a comparison. -/
def selection (expression : Phrase) : Phrase := fun ts => do
  let ts ← expression ts
  match keyword "from" ts with
  | none => return ts
  | some ts =>
    let (_, ts) ← name ts
    match keyword "where" ts with
    | none => return ts
    | some ts =>
      let ts ← expression ts
      let ts ← sign '=' ts
      expression ts

def arguments (expression : Phrase) : Phrase := fun ts =>
  match ts with
  | .sign '(' :: .sign ')' :: ts => some ts
  | ts => parenthesised expression ts

/-- A text, a number with or without a sign, a name, a call or a `SELECT` in parentheses, and casts
after it. `depth` bounds how deep expressions are nested. -/
def expression : (depth : Nat) → Phrase
  | 0, _ => none
  | _ + 1, .text _ :: ts => some (casts ts)
  | _ + 1, .number _ :: ts => some (casts ts)
  | _ + 1, .sign '-' :: .number _ :: ts => some (casts ts)
  | _ + 1, .sign '+' :: .number _ :: ts => some (casts ts)
  | depth + 1, .sign '(' :: ts => do
    let ts ← keyword "select" ts
    let ts ← selection (expression depth) ts
    let ts ← sign ')' ts
    return casts ts
  | depth + 1, ts => do
    let (_, ts) ← name ts
    match ts with
    | .sign '(' :: _ => (arguments (expression depth) ts).map casts
    | ts => return casts ts

/-- A statement, which must be all there is. -/
def statement (ts : List Token) : Option Query :=
  let expression := expression ts.length
  match keyword "insert" ts with
  | some rest => do
    let rest ← keyword "into" rest
    let (table, rest) ← name rest
    let rest ← parenthesised identifier rest
    let rest ← keyword "values" rest
    let rest ← commaSeparated (parenthesised expression) rest.length rest
    if rest.isEmpty then some (.insert table) else none
  | none => do
    let rest ← keyword "select" ts
    let rest ← selection expression rest
    if rest.isEmpty then some .select else none

/-- Words between semicolons. -/
def sections : List Token → List (List Token)
  | [] => [[]]
  | t :: ts => if t = .sign ';' then [] :: sections ts else (sections ts).modifyHead (t :: ·)

/-- The statements of a text, if it parses. -/
def parse? (text : String) : Option (List Query) := do
  let ts ← tokens text
  ((sections ts).filter fun s => !s.isEmpty).mapM statement

/-- The statements of a text that is to be SQL. -/
def check (text : String) : Except SeedError (List Query) :=
  match parse? text with
  | some statements => .ok statements
  | none => .error .sqlCheck

def insertedTables (statements : List Query) : List String :=
  statements.filterMap fun
    | .insert table => some table
    | .select => none

end SeedScript.Sql
