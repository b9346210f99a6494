import RemoteSurface.Number.Double
/-!
The fewest decimal digits that read back as a given double, and of those the nearest to it. For
one digit, then two, and so on, the decimal grid with that many digits is tried at the value's two
neighbours; the first grid with a neighbour that rounds back to the value wins.
-/
namespace RemoteSurface

/-- A decimal magnitude: whole units of a power of ten. -/
structure Decimal where
  units : Nat
  power : Int
deriving DecidableEq, Inhabited

/-- Which of two equally near decimals is taken. -/
inductive Tie where
  | toEven
  | upward
deriving DecidableEq

namespace Double

/-- Compares a decimal with a whole number of quarters of a double's last place. -/
def compareQuarters (d : Decimal) (quarters : Nat) (scale : Int) : Ordering :=
  let low := scale - 2
  compare (d.units * Nat.pow 10 d.power.toNat * Nat.pow 2 (-low).toNat)
    (quarters * Nat.pow 2 low.toNat * Nat.pow 10 (-d.power).toNat)

/-- Whether a decimal magnitude rounds to this one. The doubles next to the value bound the
decimals that round to it; a bound itself does when the significand is even. Below a power of two
the next double is half as far away as above it. -/
def readsBack (x : Double) (d : Decimal) : Bool :=
  let narrow := x.fractionBits = 0 ∧ 1 < x.exponentBits
  let below := 4 * x.significand - (if narrow then 1 else 2)
  let above := 4 * x.significand + 2
  let ends := x.significand % 2 = 0
  (match compareQuarters d below x.scale with
    | .gt => true
    | .eq => ends
    | .lt => false) &&
  (match compareQuarters d above x.scale with
    | .lt => true
    | .eq => ends
    | .gt => false)

/-- The exponent of ten of the leading decimal digit of a finite double other than zero. -/
def leadingPower (x : Double) : Int :=
  let exact := fun (p : Int) => compareQuarters ⟨1, p⟩ (4 * x.significand) x.scale != .gt
  let guess := ((x.scale + x.significand.log2) * 1233).fdiv 4096
  if exact (guess + 1) then guess + 1
  else if exact guess then guess
  else guess - 1

/-- The greatest decimal of a power of ten that is not above the value. -/
def floorOn (x : Double) (power : Int) : Decimal :=
  let num := x.significand * Nat.pow 2 x.scale.toNat * Nat.pow 10 (-power).toNat
  let den := Nat.pow 2 (-x.scale).toNat * Nat.pow 10 power.toNat
  ⟨num / den, power⟩

/-- Of a value's two neighbours on a decimal grid, the one that reads back; of two, the nearer. -/
def onGrid? (x : Double) (tie : Tie) (power : Int) : Option Decimal :=
  let low := x.floorOn power
  let high : Decimal := ⟨low.units + 1, power⟩
  match x.readsBack low, x.readsBack high with
  | false, false => none
  | true, false => some low
  | false, true => some high
  | true, true =>
    let middle : Decimal := ⟨low.units + high.units, power⟩
    match compareQuarters middle (8 * x.significand) x.scale with
    | .lt => some high
    | .gt => some low
    | .eq => match tie with
      | .upward => some high
      | .toEven => some (if low.units % 2 = 0 then low else high)

/-- Drops the zeros at the end of the units into the power. -/
def dropZeros (d : Decimal) : Nat → Decimal
  | 0 => d
  | n + 1 => if d.units % 10 = 0 then dropZeros ⟨d.units / 10, d.power + 1⟩ n else d

/-- The shortest decimal that reads back as a finite double other than zero. Seventeen digits
always suffice. -/
def shortest (x : Double) (tie : Tie) : Decimal :=
  let lead := x.leadingPower
  let found := (List.range 17).findSome? fun (n : Nat) => x.onGrid? tie (lead - n)
  dropZeros (found.getD (x.floorOn (lead - 17))) 20

end Double

end RemoteSurface
