/-!
Double-precision numbers, held as their sixty-four bits: one sign bit, eleven bits of exponent,
fifty-two of fraction. Every finite double is a whole number, the significand, times a power of
two, the scale; all arithmetic here is exact arithmetic on those two.
-/
namespace RemoteSurface

/-- A double-precision number. Two are equal when their bits are; `same` is the numeric test. -/
@[ext] structure Double where
  bits : UInt64
deriving DecidableEq, Inhabited

namespace Double

def isNegative (x : Double) : Bool := Nat.pow 2 63 ≤ x.bits.toNat

def exponentBits (x : Double) : Nat := x.bits.toNat / Nat.pow 2 52 % Nat.pow 2 11

def fractionBits (x : Double) : Nat := x.bits.toNat % Nat.pow 2 52

/-- Neither infinite nor a non-number: some exponent bit is clear. -/
def isFinite (x : Double) : Bool := x.exponentBits != Nat.pow 2 11 - 1

/-- All exponent bits set and a fraction: no number at all. -/
def isNaN (x : Double) : Bool := !x.isFinite && x.fractionBits != 0

/-- The whole number that, times two to the scale, is the magnitude of a finite double. -/
def significand (x : Double) : Nat :=
  if x.exponentBits = 0 then x.fractionBits else Nat.pow 2 52 + x.fractionBits

/-- The power of two of a finite double. -/
def scale (x : Double) : Int :=
  if x.exponentBits = 0 then -1074 else (x.exponentBits : Int) - 1075

/-- Zero of either sign. -/
def isZero (x : Double) : Bool := x.exponentBits == 0 && x.fractionBits == 0

/-- Numeric equality: the two zeros are one number, and a non-number equals nothing. -/
def same (x y : Double) : Bool :=
  !x.isNaN && !y.isNaN && (x == y || (x.isZero && y.isZero))

/-- A sign and a magnitude given by its bits. -/
def ofMagnitude (negative : Bool) (magnitude : Nat) : Double :=
  ⟨UInt64.ofNat ((if negative then Nat.pow 2 63 else 0) + magnitude)⟩

def zero (negative : Bool) : Double := ofMagnitude negative 0

def infinity (negative : Bool) : Double := ofMagnitude negative ((Nat.pow 2 11 - 1) * Nat.pow 2 52)

def nan (negative : Bool) : Double := ofMagnitude negative ((Nat.pow 2 12 - 1) * Nat.pow 2 51)

/-- The magnitude of a finite double, when it is a whole number. -/
def wholeMagnitude? (x : Double) : Option Nat :=
  if !x.isFinite then none
  else match x.scale with
    | .ofNat up => some (x.significand * Nat.pow 2 up)
    | .negSucc d =>
      let down := Nat.pow 2 (d + 1)
      if x.significand % down = 0 then some (x.significand / down) else none

end Double

end RemoteSurface
