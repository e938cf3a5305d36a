/-!
# Binary64 numbers

A finite number is a significand below `2 ^ 53` times a power of two that is at least `2 ^ -1074`.
A ratio is rounded to the nearest such number, a half to the even significand, and overflows to
infinity.
-/

namespace SeedScript.Decimal

/-- A binary64 number; the payload of a NaN is left out. -/
inductive Binary64 where
  | nan
  | infinity (negative : Bool)
  | finite (negative : Bool) (significand : Nat) (exponent : Int)
  deriving DecidableEq, Repr

/-- The nearest integer to `num / den`, a half going to the even neighbour. -/
def roundRatio (num den : Nat) : Nat :=
  let q := num / den
  let r := num % den
  if den < 2 * r ∨ (2 * r = den ∧ q % 2 = 1) then q + 1 else q

namespace Binary64

def minExponent : Int := -1074

def maxExponent : Int := 971

/-- Numerator and denominator of `num / den / 2 ^ e`. -/
def scaled (num den : Nat) (e : Int) : Nat × Nat := (num <<< (-e).toNat, den <<< e.toNat)

/-- The exponent at which the quotient of two positive numbers has 53 binary digits, or the least
exponent when that is greater. -/
def exponentOfRatio (num den : Nat) : Int :=
  let e : Int := (num.log2 : Int) - den.log2 - 52
  let (n, d) := scaled num den e
  max minExponent (if n / d < 1 <<< 52 then e - 1 else e)

/-- The number nearest to the ratio of two positive numbers. -/
def ofRatio (negative : Bool) (num den : Nat) : Binary64 :=
  let e := exponentOfRatio num den
  let (n, d) := scaled num den e
  let m := roundRatio n d
  let (m, e) := if m = 1 <<< 53 then (1 <<< 52, e + 1) else (m, e)
  if maxExponent < e then .infinity negative else .finite negative m e

def zero (negative : Bool) : Binary64 := .finite negative 0 minExponent

/-- The number nearest to `coefficient * 10 ^ power`. Powers far out of range are settled without
being computed: `digits` is the number of digits of the coefficient. -/
def ofDecimal (negative : Bool) (coefficient digits : Nat) (power : Int) : Binary64 :=
  if coefficient = 0 ∨ digits + power < -330 then zero negative
  else if 310 < digits + power then .infinity negative
  else ofRatio negative (coefficient * Nat.pow 10 power.toNat) (Nat.pow 10 (-power).toNat)

end Binary64

end SeedScript.Decimal
