import SeedScript.Decimal.Binary64

/-!
# Shortest decimal text

A finite number is written with the fewest digits that are read back as the same number, and of
several such texts with the nearest, the upper one of two that are equally near. Digits stand in
their places: there is no exponent, and no point after a whole number.
-/

namespace SeedScript.Decimal

/-- The numbers that round to `significand * 2 ^ exponent`, in quarters of its last place. -/
structure RoundingInterval where
  low : Nat
  value : Nat
  high : Nat
  /-- Whether the ends belong to the interval. -/
  closed : Bool
  /-- The power of two of a quarter. -/
  quarter : Int

/-- The numbers that round to a positive number. The gap below a power of two is half as wide. -/
def RoundingInterval.of (significand : Nat) (exponent : Int) : RoundingInterval where
  low := 4 * significand -
    (if significand = 1 <<< 52 ∧ Binary64.minExponent < exponent then 1 else 2)
  value := 4 * significand
  high := 4 * significand + 2
  closed := significand % 2 == 0
  quarter := exponent - 2

/-- The factors by which quarters and multiples of `10 ^ power` become comparable. -/
def RoundingInterval.factors (r : RoundingInterval) (power : Int) : Nat × Nat :=
  (Nat.pow 10 (-power).toNat <<< r.quarter.toNat, Nat.pow 10 power.toNat <<< (-r.quarter).toNat)

/-- Whether `k * 10 ^ power` lies in the interval. -/
def RoundingInterval.holds (r : RoundingInterval) (power : Int) (k : Nat) : Bool :=
  let (a, b) := r.factors power
  if r.closed then r.low * a ≤ k * b && k * b ≤ r.high * a
  else r.low * a < k * b && k * b < r.high * a

/-- The multiple of `10 ^ power` in the interval that is nearest to its value, if there is one. -/
def RoundingInterval.nearest? (r : RoundingInterval) (power : Int) : Option Nat :=
  let (a, b) := r.factors power
  let below := r.value * a / b
  if r.holds power below && (!r.holds power (below + 1) || 2 * (r.value * a % b) < b) then
    some below
  else if r.holds power (below + 1) then some (below + 1)
  else none

/-- Digits and a power of ten: the coarsest multiple that lies in the interval. A number has at most
seventeen digits, and the search starts above the first one. -/
def shortest (significand : Nat) (exponent : Int) : Nat × Int :=
  let r := RoundingInterval.of significand exponent
  let top : Int := ((significand.log2 : Int) + exponent) * 30103 / 100000 + 2
  ((List.range 24).findSome? fun (i : Nat) =>
    let power := top - (i : Int)
    (r.nearest? power).map fun k => (k, power)).getD (0, 0)

/-- `k * 10 ^ power` with its digits in their places. -/
def positional (k : Nat) (power : Int) : List Char :=
  let digits := Nat.toDigits 10 k
  if 0 ≤ power then digits ++ List.replicate power.toNat '0'
  else
    let places := (-power).toNat
    let padded := List.replicate (places + 1 - digits.length) '0' ++ digits
    padded.take (padded.length - places) ++ '.' :: padded.drop (padded.length - places)

def Binary64.text : Binary64 → String
  | .nan => "NaN"
  | .infinity negative => if negative then "-inf" else "inf"
  | .finite negative significand exponent =>
    let digits :=
      if significand = 0 then ['0']
      else
        let (k, power) := shortest significand exponent
        positional k power
    String.ofList (if negative then '-' :: digits else digits)

end SeedScript.Decimal
