/-!
# Singular of an English plural

Table names are snake case plurals. Words that have no plural of their own and irregular plurals
are looked up by the last word of the name; every other name follows the first ending rule that
matches it. Letters match in either case, and a pattern's `s` also matches the long s.
-/

namespace SeedScript.Naming

/-! ## Letters of a pattern -/

/-- What a pattern asks of one character. -/
inductive Letter where
  | oneOf (letters : List Char)
  | noneOf (letters : List Char)
  deriving DecidableEq, Repr

/-- The lower case of an ASCII letter, and `s` for the long s. -/
def foldCase (c : Char) : Char := if c = 'ſ' then 's' else c.toLower

/-- Whether a character fits, in either case. -/
def Letter.admits : Letter → Char → Bool
  | .oneOf letters, c => letters.contains (foldCase c)
  | .noneOf letters, c => !letters.contains (foldCase c)

/-- The pattern that spells out a word. -/
def spelled (word : String) : List Letter := word.toList.map fun c => .oneOf [c]

def anyOf (letters : String) : List Letter := [.oneOf letters.toList]

def noneOf (letters : String) : List Letter := [.noneOf letters.toList]

/-- What remains of a text after a pattern. -/
def afterPattern? : List Letter → List Char → Option (List Char)
  | [], cs => some cs
  | _ :: _, [] => none
  | l :: ls, c :: cs => if l.admits c then afterPattern? ls cs else none

/-! ## Ending rules -/

/-- A name that ends in a stem and then an ending takes `singular` for the ending. -/
structure EndingRule where
  /-- The stem opens the name or follows an underscore. -/
  opensWord : Bool
  stems : List (List Letter)
  endings : List (List Letter)
  singular : String

/-- Whether nothing, or an underscore, precedes: the text is given back to front. -/
def atWordStart : (reversed : List Char) → Bool
  | [] => true
  | c :: _ => c == '_'

/-- Whether a name given back to front ends in one of the stems. -/
def EndingRule.endsInStem (rule : EndingRule) (reversed : List Char) : Bool :=
  rule.stems.any fun stem =>
    match afterPattern? stem.reverse reversed with
    | some front => !rule.opensWord || atWordStart front
    | none => false

/-- The singular that a rule makes of a name, when it matches. -/
def EndingRule.inflect? (rule : EndingRule) (name : List Char) : Option (List Char) :=
  rule.endings.findSome? fun ending =>
    match afterPattern? ending.reverse name.reverse with
    | some reversed =>
      if rule.endsInStem reversed then some (reversed.reverse ++ rule.singular.toList) else none
    | none => none

/-- A rule whose stem may stand anywhere in a name. -/
def anywhere (stems endings : List (List Letter)) (singular : String) : EndingRule :=
  ⟨false, stems, endings, singular⟩

/-- A rule whose stem begins a word. -/
def wholeWord (stems endings : List (List Letter)) (singular : String) : EndingRule :=
  ⟨true, stems, endings, singular⟩

/-- The ending rules, the most specific first. -/
def endingRules : List EndingRule :=
  [ anywhere [spelled "database"] [spelled "s"] "",
    anywhere [spelled "quiz"] [spelled "zes"] "",
    anywhere [spelled "matr"] [spelled "ices"] "ix",
    anywhere [spelled "vert", spelled "ind"] [spelled "ices"] "ex",
    wholeWord [spelled "ox"] [spelled "en"] "",
    anywhere [spelled "alias", spelled "status"] [spelled "es", []] "",
    anywhere [spelled "octop", spelled "vir"] [spelled "us", spelled "i"] "us",
    wholeWord [spelled "a"] [spelled "x" ++ anyOf "ie" ++ spelled "s"] "xis",
    anywhere [spelled "cris", spelled "test"] [spelled "is", spelled "es"] "is",
    anywhere [spelled "shoe"] [spelled "s"] "",
    anywhere [spelled "o"] [spelled "es"] "",
    anywhere [spelled "bus"] [spelled "es", []] "",
    wholeWord [anyOf "ml"] [spelled "ice"] "ouse",
    anywhere [spelled "x", spelled "ch", spelled "ss", spelled "sh"] [spelled "es"] "",
    anywhere [spelled "m"] [spelled "ovies"] "ovie",
    anywhere [spelled "s"] [spelled "eries"] "eries",
    anywhere [noneOf "aeiouy", spelled "qu"] [spelled "ies"] "y",
    anywhere [anyOf "lr"] [spelled "ves"] "f",
    anywhere [spelled "tive"] [spelled "s"] "",
    anywhere [spelled "hive"] [spelled "s"] "",
    anywhere [noneOf "f"] [spelled "ves"] "fe",
    anywhere [spelled "analy", spelled "ba", spelled "diagno", spelled "parenthe",
      spelled "progno", spelled "synop", spelled "the"] [spelled "sis", spelled "ses"] "sis",
    anywhere [anyOf "ti"] [spelled "a"] "um",
    anywhere [spelled "n"] [spelled "ews"] "ews",
    anywhere [spelled "ss"] [[]] "",
    anywhere [[]] [spelled "s"] "" ]

/-- The singular by the first rule that matches; a name that none matches stays as it is. -/
def singularByEnding (name : List Char) : List Char :=
  (endingRules.findSome? fun rule => rule.inflect? name).getD name

/-! ## Words -/

/-- Words whose singular and plural are alike. -/
def uncountable : List String :=
  ["equipment", "information", "rice", "money", "species", "series", "fish", "sheep", "jeans",
    "police", "news"]

/-- Plurals of no rule, with their singulars. -/
def irregular : List (String × String) :=
  [("people", "person"), ("men", "man"), ("women", "woman"), ("children", "child"),
    ("sexes", "sex"), ("moves", "move"), ("zombies", "zombie"), ("geese", "goose"),
    ("feet", "foot"), ("teeth", "tooth")]

def lastWord (name : List Char) : List Char := (name.reverse.takeWhile (· != '_')).reverse

/-- What precedes the last word, its underscore included. -/
def beforeLastWord (name : List Char) : List Char := (name.reverse.dropWhile (· != '_')).reverse

theorem beforeLastWord_append_lastWord (name : List Char) :
    beforeLastWord name ++ lastWord name = name := by
  rw [beforeLastWord, lastWord, ← List.reverse_append, List.takeWhile_append_dropWhile,
    List.reverse_reverse]

/-- `word` with a capital when `model` begins with one. -/
def capitalizedLike (model word : List Char) : List Char :=
  match model, word with
  | m :: _, w :: ws => if m.isUpper then w.toUpper :: ws else word
  | _, _ => word

def singularOf (name : List Char) : List Char :=
  let last := lastWord name
  let lower := String.ofList (last.map Char.toLower)
  if uncountable.contains lower then name
  else
    match irregular.lookup lower with
    | some singular => beforeLastWord name ++ capitalizedLike last singular.toList
    | none => singularByEnding name

/-- The singular of a snake case plural. -/
def singular (name : String) : String := String.ofList (singularOf name.toList)

end SeedScript.Naming
