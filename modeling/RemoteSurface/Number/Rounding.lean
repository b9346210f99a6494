import RemoteSurface.Number.Double
/-!
From exact quotients and decimals to the nearest double. A quotient halfway between two doubles
goes to the one with the even significand; one beyond the greatest double becomes infinite.
-/
namespace RemoteSurface

namespace Double

/-- A quotient rounded to the nearest whole number, halves to the even neighbour. -/
def roundHalfEven (num den : Nat) : Nat :=
  let floor := num / den
  let twice := 2 * (num % den)
  if twice < den then floor
  else if den < twice then floor + 1
  else floor + floor % 2

/-- The scale at which the quotient of two positive numbers has a significand of fifty-three
bits, and never less than the least scale there is. -/
def scaleOf (num den : Nat) : Int :=
  let guess : Int := (num.log2 : Int) - (den.log2 : Int) - 52
  let low := num * Nat.pow 2 (-guess).toNat < Nat.pow 2 52 * (den * Nat.pow 2 guess.toNat)
  max (-1074) (if low then guess - 1 else guess)

/-- The double nearest to a quotient with a positive denominator. -/
def ofQuotient (negative : Bool) (num den : Nat) : Double :=
  if num = 0 then zero negative
  else
    let scale := scaleOf num den
    let significand := roundHalfEven (num * Nat.pow 2 (-scale).toNat) (den * Nat.pow 2 scale.toNat)
    let magnitude := (scale + 1074).toNat * Nat.pow 2 52 + significand
    ofMagnitude negative (min magnitude ((Nat.pow 2 11 - 1) * Nat.pow 2 52))

/-- How many decimal digits a number has; zero has none. -/
def decimalLength (n : Nat) : Nat := if n = 0 then 0 else (Nat.toDigits 10 n).length

/-- The double nearest to a whole number of units of a power of ten. Powers far outside the
range of a double are settled by their size alone. -/
def ofDecimal (negative : Bool) (units : Nat) (power : Int) : Double :=
  let lead : Int := (decimalLength units : Int) + power
  if units = 0 then zero negative
  else if 400 < lead then infinity negative
  else if lead < -400 then zero negative
  else ofQuotient negative (units * Nat.pow 10 power.toNat) (Nat.pow 10 (-power).toNat)

def ofInt (n : Int) : Double := ofQuotient (n < 0) n.natAbs 1

end Double

end RemoteSurface
