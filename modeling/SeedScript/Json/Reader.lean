import SeedScript.Json.Number

/-!
# Reading JSON

A reader takes what is left of a text and gives a value with what is left after it. The text is
read from left to right, and the first problem met is the fault. A value of another kind than its
place asks for is met as soon as its first token has been read.
-/

namespace SeedScript.Json

/-- A reader of `α`: from the rest of the text to a value and the rest after it. -/
abbrev Reader (α : Type) := List Char → Except Fault (α × List Char)

/-- Space, tab, carriage return and line feed. -/
def isBlank (c : Char) : Bool := c == ' ' || c == '\t' || c == '\r' || c == '\n'

/-- The text after its leading blanks. -/
def skipBlanks (cs : List Char) : List Char := cs.dropWhile isBlank

/-- The fault where something else should stand: the text ends, or it goes on wrongly. -/
def unexpected : List Char → Fault
  | [] => .truncated
  | _ :: _ => .malformed

/-- The text after a word that must stand in front. -/
def afterWord : (word : List Char) → List Char → Except Fault (List Char)
  | [], cs => .ok cs
  | w :: ws, c :: cs => if c = w then afterWord ws cs else .error .malformed
  | _ :: _, [] => .error .truncated

/-! ## Numbers -/

def digit? (c : Char) : Option Digit :=
  if h : 48 ≤ c.toNat ∧ c.toNat < 58 then some ⟨c.toNat - 48, by omega⟩ else none

/-- The leading digits of a text, and the rest. -/
def leadingDigits : List Char → List Digit × List Char
  | [] => ([], [])
  | c :: cs =>
    match digit? c with
    | some d => (d :: (leadingDigits cs).1, (leadingDigits cs).2)
    | none => ([], c :: cs)

def someDigits : Reader (List Digit) := fun cs =>
  match leadingDigits cs with
  | ([], rest) => .error (unexpected rest)
  | (ds, rest) => .ok (ds, rest)

/-- The digits before the point: a zero stands alone. -/
def wholeDigits : Reader (List Digit) := fun cs =>
  match someDigits cs with
  | .ok (0 :: _ :: _, _) => .error .malformed
  | r => r

/-- A point and digits, or nothing. -/
def fractionDigits : Reader (List Digit)
  | '.' :: cs => someDigits cs
  | cs => .ok ([], cs)

/-- The sign of an exponent, plus when there is none. -/
def exponentSign : List Char → Bool × List Char
  | '-' :: cs => (true, cs)
  | '+' :: cs => (false, cs)
  | cs => (false, cs)

/-- An exponent with its sign, or nothing. -/
def exponentPart : Reader (Bool × List Digit)
  | [] => .ok ((false, []), [])
  | c :: cs =>
    if c = 'e' ∨ c = 'E' then
      let (negative, cs) := exponentSign cs
      (someDigits cs).map fun (ds, rest) => ((negative, ds), rest)
    else .ok ((false, []), c :: cs)

def minusSign : List Char → Bool × List Char
  | '-' :: cs => (true, cs)
  | cs => (false, cs)

/-- A number that is in range. -/
def number : Reader Number := fun cs => do
  let (negative, cs) := minusSign cs
  let (whole, cs) ← wholeDigits cs
  let (fraction, cs) ← fractionDigits cs
  let ((exponentNegative, exponent), cs) ← exponentPart cs
  let n : Number := ⟨negative, whole, fraction, exponentNegative, exponent⟩
  if n.inRange then .ok (n, cs) else .error .malformed

/-! ## Strings -/

def hexValue? (c : Char) : Option Nat :=
  if c.isDigit then some (c.toNat - 48)
  else if 'a' ≤ c ∧ c ≤ 'f' then some (c.toNat - 87)
  else if 'A' ≤ c ∧ c ≤ 'F' then some (c.toNat - 55)
  else none

/-- Four hexadecimal digits. The text is too short for them when it has fewer than four bytes. -/
def hexCode : Reader Nat := fun cs =>
  if ((cs.take 4).flatMap String.utf8EncodeChar).length < 4 then .error .truncated
  else
    match (cs.take 4).mapM hexValue? with
    | some [a, b, c, d] => .ok (((a * 16 + b) * 16 + c) * 16 + d, cs.drop 4)
    | _ => .error .malformed

/-- Whether a code is the first half of a surrogate pair. -/
def isHighSurrogate (n : Nat) : Bool := 0xd800 ≤ n && n ≤ 0xdbff

/-- Whether a code is the second half of a surrogate pair. -/
def isLowSurrogate (n : Nat) : Bool := 0xdc00 ≤ n && n ≤ 0xdfff

/-- The second half of a surrogate pair, as an escape of its own. -/
def lowSurrogate : Reader Nat
  | '\\' :: 'u' :: cs => do
    let (n, cs) ← hexCode cs
    if isLowSurrogate n then .ok (n, cs) else .error .malformed
  | '\\' :: cs => .error (unexpected cs)
  | cs => .error (unexpected cs)

/-- The character of a code that was escaped; a surrogate stands only in a pair. -/
def codedChar : Reader Char := fun cs => do
  let (n, cs) ← hexCode cs
  if isLowSurrogate n then .error .malformed
  else if isHighSurrogate n then
    let (m, cs) ← lowSurrogate cs
    .ok (Char.ofNat (0x10000 + (n - 0xd800) * 0x400 + (m - 0xdc00)), cs)
  else .ok (Char.ofNat n, cs)

/-- The character that follows a backslash. -/
def escapedChar : Reader Char
  | '"' :: cs => .ok ('"', cs)
  | '\\' :: cs => .ok ('\\', cs)
  | '/' :: cs => .ok ('/', cs)
  | 'b' :: cs => .ok ('\x08', cs)
  | 'f' :: cs => .ok ('\x0c', cs)
  | 'n' :: cs => .ok ('\n', cs)
  | 'r' :: cs => .ok ('\r', cs)
  | 't' :: cs => .ok ('\t', cs)
  | 'u' :: cs => codedChar cs
  | cs => .error (unexpected cs)

/-- The characters of a string up to its closing quote. Each step takes a character of the text at
least, so the length of the text bounds them. -/
def stringRest : (bound : Nat) → Reader (List Char)
  | 0, cs => .error (unexpected cs)
  | _ + 1, [] => .error .truncated
  | bound + 1, c :: cs =>
    if c = '"' then .ok ([], cs)
    else if c = '\\' then do
      let (e, cs) ← escapedChar cs
      let (s, cs) ← stringRest bound cs
      .ok (e :: s, cs)
    else if c.toNat < 32 then .error .malformed
    else do
      let (s, cs) ← stringRest bound cs
      .ok (c :: s, cs)

/-- A string whose opening quote has been read. -/
def string : Reader String := fun cs =>
  (stringRest (cs.length + 1) cs).map fun (s, rest) => (String.ofList s, rest)

/-! ## Arrays and objects -/

/-- The items of an array from the first one up to the closing bracket. -/
def itemsFrom (item : Reader α) : (bound : Nat) → Reader (List α)
  | 0, cs => .error (unexpected cs)
  | bound + 1, cs => do
    let (a, cs) ← item cs
    match skipBlanks cs with
    | ']' :: cs => .ok ([a], cs)
    | ',' :: cs =>
      match skipBlanks cs with
      | ']' :: _ => .error .malformed
      | [] => .error .truncated
      | cs => do
        let (as, cs) ← itemsFrom item bound cs
        .ok (a :: as, cs)
    | cs => .error (unexpected cs)

/-- The items of an array whose opening bracket has been read. -/
def items (item : Reader α) : Reader (List α) := fun cs =>
  match skipBlanks cs with
  | ']' :: cs => .ok ([], cs)
  | [] => .error .truncated
  | cs => itemsFrom item (cs.length + 1) cs

/-- The members of an object from the first name up to the closing brace. What a member adds to the
members before it is told by its name and by what follows the name. -/
def membersFrom (member : σ → String → Reader σ) : (bound : Nat) → σ → Reader σ
  | bound + 1, s, '"' :: cs => do
    let (name, cs) ← string cs
    let (s, cs) ← member s name cs
    match skipBlanks cs with
    | '\x7d' :: cs => .ok (s, cs)
    | ',' :: cs => membersFrom member bound s (skipBlanks cs)
    | cs => .error (unexpected cs)
  | _, _, cs => .error (unexpected cs)

/-- The members of an object whose opening brace has been read. -/
def members (member : σ → String → Reader σ) (start : σ) : Reader σ := fun cs =>
  match skipBlanks cs with
  | '\x7d' :: cs => .ok (start, cs)
  | cs => membersFrom member (cs.length + 1) start cs

/-- What follows a name: a colon and a value. -/
def afterColon (value : Reader α) : Reader α := fun cs =>
  match skipBlanks cs with
  | ':' :: cs => value (skipBlanks cs)
  | cs => .error (unexpected cs)

def addMember (value : Reader α) (ms : List (String × α)) (name : String) :
    Reader (List (String × α)) := fun cs =>
  (afterColon value cs).map fun (a, rest) => (ms ++ [(name, a)], rest)

/-! ## Values -/

/-- A value with at most `depth` brackets open at a time. -/
def value : (depth : Nat) → Reader Value
  | _, [] => .error .truncated
  | depth, c :: cs =>
    if c = 'n' then (afterWord "ull".toList cs).map fun rest => (.null, rest)
    else if c = 't' then (afterWord "rue".toList cs).map fun rest => (.boolean true, rest)
    else if c = 'f' then (afterWord "alse".toList cs).map fun rest => (.boolean false, rest)
    else if c = '"' then (string cs).map fun (s, rest) => (.string s, rest)
    else if c = '-' ∨ c.isDigit then (number (c :: cs)).map fun (n, rest) => (.number n, rest)
    else if c = '[' then
      match depth with
      | 0 => .error .malformed
      | depth + 1 => (items (value depth) cs).map fun (vs, rest) => (.array vs, rest)
    else if c = '\x7b' then
      match depth with
      | 0 => .error .malformed
      | depth + 1 =>
        (members (addMember (value depth)) [] cs).map fun (ms, rest) => (.object ms, rest)
    else .error .malformed

/-- The fault of a value that is of the wrong kind for its place. Of an array or an object only the
opening bracket is read. -/
def wrongKind (cs : List Char) : Fault :=
  match cs.head?, value 0 cs with
  | some '[', _ => .mistyped
  | some '\x7b', _ => .mistyped
  | _, .ok _ => .mistyped
  | _, .error fault => fault

/-- A string in a place that holds nothing else. -/
def stringValue : Reader String
  | '"' :: cs => string cs
  | cs => .error (wrongKind cs)

/-- A boolean in a place that holds nothing else. -/
def booleanValue : Reader Bool
  | 't' :: cs => (afterWord "rue".toList cs).map fun rest => (true, rest)
  | 'f' :: cs => (afterWord "alse".toList cs).map fun rest => (false, rest)
  | cs => .error (wrongKind cs)

/-- How many brackets a text may have open at a time. -/
def maxDepth : Nat := 127

/-- A whole text: one value, and blanks around it. -/
def document (read : Reader α) (text : String) : Except Fault α := do
  let (a, rest) ← read (skipBlanks text.toList)
  match skipBlanks rest with
  | [] => .ok a
  | _ :: _ => .error .malformed

/-- The members of an object in a place that holds nothing else; their values may open `depth`
brackets. -/
def objectValue (depth : Nat) : Reader (List (String × Value))
  | '\x7b' :: cs => members (addMember (value depth)) [] cs
  | cs => .error (wrongKind cs)

def objectsValue : Reader (List (List (String × Value)))
  | '[' :: cs => items (objectValue (maxDepth - 2)) cs
  | cs => .error (wrongKind cs)

/-- An object whose values are strings. -/
def stringsValue : Reader (List (String × String))
  | '\x7b' :: cs => members (addMember stringValue) [] cs
  | cs => .error (wrongKind cs)

end SeedScript.Json
