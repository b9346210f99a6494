import RemoteSurface.Json.Source
import RemoteSurface.Text.Split
/-!
Numbers, dates and times of TOML, given as the run of characters that write them.
-/
namespace RemoteSurface

namespace Toml

/-- The digits of a run in which an underscore may stand between two digits. -/
def plainDigits? (isDigit : Char → Bool) (s : List Char) : Option (List Char) :=
  let groups := Text.pieces '_' s
  if groups.all fun g => !g.isEmpty && g.all isDigit then some groups.flatten else none

/-- The value of digits of a base. -/
def baseValue (base : Nat) (ds : List Char) : Nat :=
  ds.foldl (fun n d => n * base + (Source.hexValue? d).getD 0) 0

/-- Whether a character is a digit of a base. -/
def isBaseDigit (base : Nat) (c : Char) : Bool :=
  match Source.hexValue? c with
  | some d => d < base
  | none => false

/-- The digits of a decimal integer: no zero in front of another digit. -/
def wholeDigits? (s : List Char) : Option (List Char) :=
  match plainDigits? Char.isDigit s with
  | some ('0' :: _ :: _) => none
  | ds => ds

/-- An integer in decimal with a sign or without, or in another base with neither. -/
def integer? (s : List Char) : Option Int :=
  match s with
  | '0' :: 'x' :: ds => (plainDigits? (isBaseDigit 16) ds).map fun ds => (baseValue 16 ds : Int)
  | '0' :: 'o' :: ds => (plainDigits? (isBaseDigit 8) ds).map fun ds => (baseValue 8 ds : Int)
  | '0' :: 'b' :: ds => (plainDigits? (isBaseDigit 2) ds).map fun ds => (baseValue 2 ds : Int)
  | '-' :: ds => (wholeDigits? ds).map fun ds => -(baseValue 10 ds : Int)
  | '+' :: ds => (wholeDigits? ds).map fun ds => (baseValue 10 ds : Int)
  | ds => (wholeDigits? ds).map fun ds => (baseValue 10 ds : Int)

/-- An integer that fits a hundred and twenty-eight bits, with or without a sign bit. -/
def boundedInteger? (s : List Char) : Option Int :=
  (integer? s).filter fun n => -(Nat.pow 2 127) ≤ n && n < Nat.pow 2 128

/-- Splits a run at the mark of an exponent. -/
def splitExponent (s : List Char) : List Char × Option (List Char) :=
  let isMark := fun (c : Char) => c == 'e' || c == 'E'
  match s.dropWhile fun c => !isMark c with
  | _ :: power => (s.takeWhile fun c => !isMark c, some power)
  | [] => (s, none)

/-- The digits of an exponent, which may begin with zeros, with their sign. -/
def exponent? (s : List Char) : Option Int :=
  let (negative, ds) := Double.takeSign s
  (plainDigits? Char.isDigit ds).map fun ds =>
    if negative then -(Double.digitsValue ds : Int) else Double.digitsValue ds

/-- The double nearest to a numeral, if that is finite. -/
def finite? (negative : Bool) (n : Double.Numeral) : Option Double :=
  (some (Double.ofNumeral negative n)).filter Double.isFinite

/-- A decimal fraction with a point, an exponent or both; or infinity, or no number. -/
def float? (s : List Char) : Option Double :=
  let (negative, body) := Double.takeSign s
  if body = ['i', 'n', 'f'] then some (.infinity negative)
  else if body = ['n', 'a', 'n'] then some (.nan negative)
  else
    let (mantissa, power) := splitExponent body
    let exponent := match power with
      | none => some 0
      | some p => exponent? p
    match Text.cut? '.' mantissa, exponent with
    | some (whole, fraction), some e =>
      match wholeDigits? whole, plainDigits? Char.isDigit fraction with
      | some w, some f => finite? negative ⟨w, f, e⟩
      | _, _ => none
    | none, some e =>
      if power.isNone then none
      else (wholeDigits? mantissa).bind fun w => finite? negative ⟨w, [], e⟩
    | _, none => none

/-- The number that exactly `count` digits write. -/
def exactly? (count : Nat) (s : List Char) : Option Nat :=
  if s.length = count && s.all Char.isDigit then some (Double.digitsValue s) else none

/-- Whether a year is a leap year. -/
def isLeap (year : Nat) : Bool := year % 4 == 0 && (year % 100 != 0 || year % 400 == 0)

/-- How many days a month of a year has. -/
def monthDays (year month : Nat) : Nat :=
  if month = 2 then (if isLeap year then 29 else 28)
  else if month = 4 ∨ month = 6 ∨ month = 9 ∨ month = 11 then 30
  else 31

/-- Whether a run writes a date of the calendar. -/
def isDate (s : List Char) : Bool :=
  match Text.pieces '-' s with
  | [y, m, d] =>
    match exactly? 4 y, exactly? 2 m, exactly? 2 d with
    | some year, some month, some day =>
      1 ≤ month && month ≤ 12 && 1 ≤ day && day ≤ monthDays year month
    | _, _, _ => false
  | _ => false

/-- Whether a run writes a number of two digits up to a greatest one. -/
def isUpTo (most : Nat) (s : List Char) : Bool :=
  match exactly? 2 s with
  | some n => n ≤ most
  | none => false

/-- Whether a run writes seconds, with a fraction or without. -/
def isSeconds (s : List Char) : Bool :=
  match Text.cut? '.' s with
  | some (whole, fraction) => isUpTo 60 whole && !fraction.isEmpty && fraction.all Char.isDigit
  | none => isUpTo 60 s

/-- Whether a run writes a time of day; the seconds may be left out. -/
def isTime (s : List Char) : Bool :=
  match Text.pieces ':' s with
  | [h, m] => isUpTo 23 h && isUpTo 59 m
  | [h, m, sec] => isUpTo 23 h && isUpTo 59 m && isSeconds sec
  | _ => false

/-- Whether a run writes a time of day, then where it is so: a letter, or hours and minutes. -/
def isZonedTime (s : List Char) : Bool :=
  match s.reverse with
  | 'Z' :: back => isTime back.reverse
  | 'z' :: back => isTime back.reverse
  | m₀ :: m₁ :: ':' :: h₀ :: h₁ :: sign :: back =>
    if sign = '+' ∨ sign = '-' then
      isTime back.reverse && isUpTo 23 [h₁, h₀] && isUpTo 59 [m₁, m₀]
    else isTime s
  | _ => isTime s

/-- Whether a run writes a date, a time, or a date with a time. -/
def isMoment (s : List Char) : Bool :=
  match s.drop 10 with
  | [] => isDate s || isTime s
  | sep :: time =>
    if sep = 'T' ∨ sep = 't' ∨ sep = ' ' then isDate (s.take 10) && isZonedTime time
    else isTime s

/-- The value that a run writes: a word, an integer, a fraction, or a moment in time. -/
def scalar? (s : List Char) : Option Json :=
  if s = ['t', 'r', 'u', 'e'] then some (.bool true)
  else if s = ['f', 'a', 'l', 's', 'e'] then some (.bool false)
  else if (integer? s).isSome then (boundedInteger? s).map fun n => .number (.whole n)
  else match float? s with
    | some x => some (.number (.real x))
    | none => if isMoment s then some (.object [("moment", .text (String.ofList s))]) else none

end Toml

end RemoteSurface
