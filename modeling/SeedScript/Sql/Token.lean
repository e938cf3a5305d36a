/-!
# Words of SQL

SQL text is a list of names, quoted texts, numbers and signs, with blanks between them. A quote that
is doubled inside quotes stands for itself.
-/

namespace SeedScript.Sql

inductive Token where
  /-- A bare name or a keyword. -/
  | word (s : String)
  /-- A name between double quotes, which are part of `s`. -/
  | quotedName (s : String)
  /-- A text between single quotes. -/
  | text (s : String)
  | number (s : String)
  /-- The double colon of a cast. -/
  | cast
  /-- A point, comma, parenthesis, semicolon, equals sign, plus or minus. -/
  | sign (c : Char)
  deriving DecidableEq, Repr

/-- Whether a bare name may begin with a character. -/
def isNameStart (c : Char) : Bool := c.isAlpha || c == '_' || 128 ≤ c.toNat

/-- Whether a bare name may go on with a character. -/
def isNameChar (c : Char) : Bool := isNameStart c || c.isDigit || c == '$'

/-- Whether a character only separates words. -/
def isSpace (c : Char) : Bool := c == ' ' || c == '\t' || c == '\n' || c == '\r'

/-- Whether a character is a word of its own. -/
def isSign (c : Char) : Bool := ['.', ',', '(', ')', ';', '=', '+', '-'].contains c

/-- The text up to the closing quote, doubled quotes undone, and what follows it. -/
def untilQuote (quote : Char) : List Char → Option (List Char × List Char)
  | [] => none
  | [c] => if c = quote then some ([], []) else none
  | c :: d :: cs =>
    if c = quote then
      if d = quote then (untilQuote quote cs).map fun (s, rest) => (quote :: s, rest)
      else some ([], d :: cs)
    else (untilQuote quote (d :: cs)).map fun (s, rest) => (c :: s, rest)

/-- The characters of an exponent in front of a text. -/
def exponentLength : List Char → Nat
  | e :: s :: d :: cs =>
    if e ≠ 'e' ∧ e ≠ 'E' then 0
    else if s.isDigit then 1 + ((s :: d :: cs).takeWhile Char.isDigit).length
    else if (s = '+' ∨ s = '-') ∧ d.isDigit then 2 + ((d :: cs).takeWhile Char.isDigit).length
    else 0
  | [e, d] => if (e = 'e' ∨ e = 'E') ∧ d.isDigit then 2 else 0
  | _ => 0

/-- The characters of a number in front of a text: digits, a point and digits, an exponent. -/
def numberLength (cs : List Char) : Nat :=
  let whole := (cs.takeWhile Char.isDigit).length
  let withFraction :=
    match cs.drop whole with
    | '.' :: rest => whole + 1 + (rest.takeWhile Char.isDigit).length
    | _ => whole
  withFraction + exponentLength (cs.drop withFraction)

/-- Whether a number begins here: with a digit, or with a point and a digit. -/
def beginsNumber : List Char → Bool
  | '.' :: d :: _ => d.isDigit
  | c :: _ => c.isDigit
  | [] => false

/-- The words of a text. `bound` is at least the number of its characters. -/
def tokensFrom : (bound : Nat) → List Char → Option (List Token)
  | _, [] => some []
  | 0, _ :: _ => none
  | bound + 1, c :: cs =>
    if isSpace c then tokensFrom bound cs
    else if isNameStart c then
      (tokensFrom bound (cs.dropWhile isNameChar)).map
        (.word (String.ofList (c :: cs.takeWhile isNameChar)) :: ·)
    else if c = '\'' then do
      let (s, rest) ← untilQuote '\'' cs
      return .text (String.ofList s) :: (← tokensFrom bound rest)
    else if c = '"' then do
      let (_, rest) ← untilQuote '"' cs
      return .quotedName (String.ofList (c :: cs.take (cs.length - rest.length))) ::
        (← tokensFrom bound rest)
    else if beginsNumber (c :: cs) then
      let n := numberLength (c :: cs)
      (tokensFrom bound ((c :: cs).drop n)).map (.number (String.ofList ((c :: cs).take n)) :: ·)
    else if isSign c then (tokensFrom bound cs).map (.sign c :: ·)
    else
      match c, cs with
      | ':', ':' :: cs => (tokensFrom bound cs).map (.cast :: ·)
      | _, _ => none

def tokens (text : String) : Option (List Token) := tokensFrom text.toList.length text.toList

end SeedScript.Sql
