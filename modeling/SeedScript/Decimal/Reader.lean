import SeedScript.Decimal.Binary64

/-!
# Reading decimal numbers

A number is digits with an optional point and an optional exponent, or one of the words for infinity
and for what is not a number. A sign may precede all of them.
-/

namespace SeedScript.Decimal

/-- The number that digits spell. -/
def coefficient (ds : List Char) : Nat := ds.foldl (fun n c => n * 10 + (c.toNat - 48)) 0

/-- A sign, plus when there is none, and the rest of a text. -/
def splitSign : List Char → Bool × List Char
  | '-' :: cs => (true, cs)
  | '+' :: cs => (false, cs)
  | cs => (false, cs)

/-- The power of ten that the end of a number spells: nothing, or a letter and a signed number. -/
def exponent? : List Char → Option Int
  | [] => some 0
  | c :: cs =>
    let (negative, ds) := splitSign cs
    if (c = 'e' ∨ c = 'E') ∧ ds ≠ [] ∧ ds.all Char.isDigit then
      some (if negative then -(coefficient ds : Int) else coefficient ds)
    else none

/-- The digits after a point, and what follows them. -/
def splitFraction : List Char → List Char × List Char
  | '.' :: cs => (cs.takeWhile Char.isDigit, cs.dropWhile Char.isDigit)
  | cs => ([], cs)

/-- A number without a sign, spelled with digits. -/
def unsigned? (negative : Bool) (cs : List Char) : Option Binary64 :=
  let whole := cs.takeWhile Char.isDigit
  let (fraction, rest) := splitFraction (cs.dropWhile Char.isDigit)
  let digits := whole ++ fraction
  if digits = [] then none
  else
    (exponent? rest).map fun e =>
      .ofDecimal negative (coefficient digits) (digits.dropWhile (· == '0')).length
        (e - fraction.length)

/-- The number that a text spells. -/
def read? (text : String) : Option Binary64 :=
  let (negative, cs) := splitSign text.toList
  let word := String.ofList (cs.map Char.toLower)
  if word = "nan" then some .nan
  else if word = "inf" ∨ word = "infinity" then some (.infinity negative)
  else unsigned? negative cs

end SeedScript.Decimal
