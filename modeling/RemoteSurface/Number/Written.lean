import RemoteSurface.Number.Rounding
import RemoteSurface.Number.Shortest
/-!
How doubles are written and read. The document form always shows a fraction or an exponent; the
display form never shows an exponent and shows no fraction for a whole number. Both show the
fewest digits that read back.
-/
namespace RemoteSurface

namespace Double

def digitChars (n : Nat) : List Char := Nat.toDigits 10 n

def zeroDigits (n : Nat) : List Char := List.replicate n '0'

/-- Digits written around the point: the first digit stands for `lead` powers of ten. -/
def positional (digits : List Char) (lead : Int) (wholeFraction : List Char) : List Char :=
  if lead < 0 then
    ['0', '.'] ++ zeroDigits (-lead - 1).toNat ++ digits
  else
    let whole := lead.toNat + 1
    if digits.length ≤ whole then digits ++ zeroDigits (whole - digits.length) ++ wholeFraction
    else digits.take whole ++ '.' :: digits.drop whole

/-- One digit, the point, the others, and the signed power of ten. -/
def scientific (digits : List Char) (lead : Int) : List Char :=
  let mantissa := match digits with
    | first :: second :: rest => first :: '.' :: second :: rest
    | short => short
  mantissa ++ 'e' :: (if lead < 0 then '-' else '+') :: digitChars lead.natAbs

/-- Puts the sign of a double in front. -/
def withSign (x : Double) (text : List Char) : String :=
  String.ofList (if x.isNegative then '-' :: text else text)

/-- The document form of a finite double: positional from ten to the minus fifth up to ten to
the fifteenth, scientific outside. -/
def document (x : Double) : String :=
  if x.isZero then withSign x ['0', '.', '0']
  else
    let d := x.shortest .toEven
    let digits := digitChars d.units
    let lead := d.power + digits.length - 1
    withSign x (if -5 ≤ lead ∧ lead ≤ 15 then positional digits lead ['.', '0']
      else scientific digits lead)

/-- The display form: positional at every size. -/
def display (x : Double) : String :=
  if x.isNaN then "NaN"
  else if !x.isFinite then withSign x ['i', 'n', 'f']
  else if x.isZero then withSign x ['0']
  else
    let d := x.shortest .upward
    let digits := digitChars d.units
    withSign x (positional digits (d.power + digits.length - 1) [])

/-- The value of a run of decimal digits. -/
def digitsValue (ds : List Char) : Nat :=
  ds.foldl (fun n c => n * 10 + (c.toNat - '0'.toNat)) 0

/-- An unsigned decimal in parts: digits before the point, digits after it, and the power of ten
written behind it. -/
structure Numeral where
  whole : List Char
  fraction : List Char
  power : Int

/-- The double nearest to a written decimal. -/
def ofNumeral (negative : Bool) (n : Numeral) : Double :=
  ofDecimal negative (digitsValue (n.whole ++ n.fraction)) (n.power - n.fraction.length)

def takeSign : List Char → Bool × List Char
  | '-' :: rest => (true, rest)
  | '+' :: rest => (false, rest)
  | rest => (false, rest)

/-- The signed whole number that is all of a text. -/
def wholePower? (s : List Char) : Option Int :=
  let (negative, ds) := takeSign s
  if ds.isEmpty || !ds.all Char.isDigit then none
  else some (if negative then -(digitsValue ds : Int) else digitsValue ds)

/-- Reads an unsigned decimal: digits with a point anywhere or none, at least one digit, and
optionally `e` with a signed power. -/
def numeral? (s : List Char) : Option Numeral :=
  let whole := s.takeWhile Char.isDigit
  let (fraction, rest) := match s.dropWhile Char.isDigit with
    | '.' :: r => (r.takeWhile Char.isDigit, r.dropWhile Char.isDigit)
    | r => ([], r)
  if whole.isEmpty && fraction.isEmpty then none
  else match rest with
    | [] => some ⟨whole, fraction, 0⟩
    | c :: r =>
      if c = 'e' ∨ c = 'E' then (wholePower? r).map (⟨whole, fraction, ·⟩) else none

/-- Reads a number as people write it: a sign, then a decimal or one of the words for infinity
and for no number, in any case. A decimal beyond the greatest double is infinite. -/
def parse? (s : String) : Option Double :=
  let (negative, body) := takeSign s.toList
  let word := String.ofList (body.map Char.toLower)
  if word = "inf" ∨ word = "infinity" then some (infinity negative)
  else if word = "nan" then some (nan negative)
  else (numeral? body).map (ofNumeral negative)

end Double

end RemoteSurface
