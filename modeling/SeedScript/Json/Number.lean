import SeedScript.Json.Value

/-!
# Range of JSON numbers

A number is read as a 64-bit significand times a power of ten. Digits before the point that no
longer fit raise the power, those after it are left out. The number is in range when significand
and power, each rounded to 53 bits, have a product below the overflow threshold of binary64.
-/

namespace SeedScript.Json

def maxSignificand : Nat := (1 <<< 64) - 1

/-- Appends digits to a significand for as long as it fits, and tells the digits that are left. -/
def appendDigits (significand : Nat) : List Digit → Nat × List Digit
  | [] => (significand, [])
  | d :: ds =>
    if significand * 10 + d.val ≤ maxSignificand then appendDigits (significand * 10 + d.val) ds
    else (significand, d :: ds)

/-- A number rounded to 53 binary digits, a half going to the even neighbour. -/
def roundTo53 (n : Nat) : Nat :=
  if n < 1 <<< 53 then n
  else
    let unit := 1 <<< (n.log2 - 52)
    let q := n / unit
    let r := n % unit
    (if unit < 2 * r ∨ (2 * r = unit ∧ q % 2 = 1) then q + 1 else q) * unit

/-- The number that a list of digits spells. -/
def decimalValue (ds : List Digit) : Nat := ds.foldl (fun n d => n * 10 + d.val) 0

namespace Number

/-- The significand, and the power of ten that goes with it before the exponent is added. -/
def significand (n : Number) : Nat × Int :=
  let whole := appendDigits 0 n.whole
  let all := appendDigits whole.1 n.fraction
  (all.1, (whole.2.length : Int) - (n.fraction.length - all.2.length : Nat))

def exponentValue (n : Number) : Int :=
  if n.exponentNegative then -(decimalValue n.exponent : Int) else decimalValue n.exponent

/-- Whether the number is in the range of binary64. -/
def inRange (n : Number) : Bool :=
  let (m, shift) := n.significand
  let power := shift + n.exponentValue
  if m = 0 ∨ power < 0 then true
  else if 308 < power then false
  else roundTo53 m * roundTo53 (Nat.pow 10 power.toNat) < (1 <<< 1024) - (1 <<< 970)

end Number

end SeedScript.Json
