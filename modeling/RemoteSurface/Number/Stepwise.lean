import RemoteSurface.Number.Written
/-!
Decimals read step by step, as a reader does that is in a hurry: the digits that fit sixty-four
bits become a double, and that is multiplied or divided by a power of ten. Every step rounds, so
the outcome need not be the double nearest to the decimal.
-/
namespace RemoteSurface

namespace Double

/-- The product of two finite doubles, rounded. -/
def times (x y : Double) : Double :=
  let scale := x.scale + y.scale
  ofQuotient (x.isNegative != y.isNegative)
    (x.significand * y.significand * Nat.pow 2 scale.toNat) (Nat.pow 2 (-scale).toNat)

/-- The quotient of two finite doubles, the second of them not zero, rounded. -/
def dividedBy (x y : Double) : Double :=
  let scale := x.scale - y.scale
  ofQuotient (x.isNegative != y.isNegative)
    (x.significand * Nat.pow 2 scale.toNat) (y.significand * Nat.pow 2 (-scale).toNat)

/-- The double nearest to a power of ten. -/
def tenPower (n : Nat) : Double := ofQuotient false (Nat.pow 10 n) 1

/-- The greatest power of ten that is finite as a double. -/
def greatestPower : Nat := 308

/-- Divides by the greatest power of ten so many times, or until nothing is left. -/
def lower : Nat → Double → Double
  | 0, x => x
  | n + 1, x => if x.isZero then x else lower n (x.dividedBy (tenPower greatestPower))

/-- A number of units as a double, then brought to its power of ten. -/
def scaled (negative : Bool) (units : Nat) (power : Int) : Double :=
  let x := ofQuotient negative units 1
  match power with
  | .ofNat up =>
    if up ≤ greatestPower then x.times (tenPower up)
    else if x.isZero then x
    else infinity negative
  | .negSucc d => (lower (d / greatestPower) x).dividedBy (tenPower (d % greatestPower + 1))

/-- Appends digits to a number as long as it fits sixty-four bits: the number, and the digits from
the first that does not fit. -/
def takeDigits (n : Nat) : List Char → Nat × List Char
  | [] => (n, [])
  | c :: rest =>
    let longer := n * 10 + (c.toNat - '0'.toNat)
    if longer < Nat.pow 2 64 then takeDigits longer rest else (n, c :: rest)

/-- Reads a decimal. Whole digits that do not fit still count for the power of ten; a digit behind
the point is taken whenever it fits, and what is left there is dropped. -/
def stepwise (negative : Bool) (n : Numeral) : Double :=
  let (whole, long) := takeDigits 0 n.whole
  let (units, dropped) := takeDigits whole n.fraction
  scaled negative units (n.power + long.length + dropped.length - n.fraction.length)

end Double

end RemoteSurface
