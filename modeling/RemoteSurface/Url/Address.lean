import RemoteSurface.Text.Split
import RemoteSurface.Url.Percent
/-!
Internet addresses in the place of a host name: four bytes in up to four parts, or eight groups of
sixteen bits.
-/
namespace RemoteSurface

namespace Address

/-- The value of digits in a base, if all of them are digits of it. -/
def digits? (base : Nat) (ds : List Char) : Option Nat :=
  ds.foldlM (fun n d => ((Percent.value? d).filter (· < base)).map fun v => n * base + v) 0

/-- A part of an address: hexadecimal after a zero and an x, octal after a zero, else decimal. -/
def part? : List Char → Option Nat
  | [] => none
  | ['0'] => some 0
  | '0' :: 'x' :: ds => digits? 16 ds
  | '0' :: 'X' :: ds => digits? 16 ds
  | '0' :: ds => digits? 8 ds
  | ds => digits? 10 ds

/-- The parts of a name between dots; a dot at the end counts for nothing. -/
def parts (name : List Char) : List (List Char) :=
  let pieces := Text.pieces '.' name
  if 1 < pieces.length ∧ pieces.getLast? = some [] then pieces.dropLast else pieces

/-- Whether a name ends in a number, which makes it an address or nothing. -/
def endsInNumber (name : List Char) : Bool :=
  match (parts name).getLast? with
  | none => false
  | some last => (!last.isEmpty && last.all Char.isDigit) || (part? last).isSome

/-- The address that a list of parts writes: all but the last are bytes, and the last fills what
is left. -/
def ofParts? (numbers : List Nat) : Option Nat :=
  match numbers.reverse with
  | [] => none
  | last :: front =>
    let front := front.reverse
    if front.length ≤ 3 ∧ (front.all fun n => n ≤ 255) = true ∧
        last < Nat.pow 256 (4 - front.length) then
      some (front.foldl (fun a n => a * 256 + n) 0 * Nat.pow 256 (4 - front.length) + last)
    else none

def four? (name : List Char) : Option Nat := ((parts name).mapM part?).bind ofParts?

def renderFour (a : Nat) : List Char :=
  Text.joinWith '.' ([a / Nat.pow 256 3 % 256, a / Nat.pow 256 2 % 256, a / 256 % 256, a % 256].map
    fun n => (toString n).toList)

/-- A byte in decimal, without zeros in front. -/
def byte? (ds : List Char) : Option Nat :=
  match ds with
  | [] => none
  | '0' :: _ :: _ => none
  | ds => (digits? 10 ds).filter (· ≤ 255)

/-- The two groups that four bytes in decimal make. -/
def byteGroups? (s : List Char) : Option (List Nat) :=
  match (Text.pieces '.' s).mapM byte? with
  | some [a, b, c, d] => some [a * 256 + b, c * 256 + d]
  | _ => none

/-- A group of up to four hexadecimal digits. -/
def group? (s : List Char) : Option Nat :=
  if 1 ≤ s.length ∧ s.length ≤ 4 then digits? 16 s else none

/-- The groups between colons. At the very end of an address four bytes may stand for two
groups. -/
def groups? (atEnd : Bool) : List (List Char) → Option (List Nat)
  | [] => some []
  | [s] =>
    match group? s with
    | some n => some [n]
    | none => if atEnd then byteGroups? s else none
  | s :: rest => (group? s).bind fun n => (groups? atEnd rest).map fun ns => n :: ns

/-- The groups of a text without two colons in a row; an empty text has none. -/
def side? (atEnd : Bool) (s : List Char) : Option (List Nat) :=
  if s.isEmpty then some [] else groups? atEnd (Text.pieces ':' s)

/-- What stands before the first two colons in a row and what stands after them. -/
def cutDouble? : List Char → Option (List Char × List Char)
  | ':' :: ':' :: rest => some ([], rest)
  | c :: rest => (cutDouble? rest).map fun p => (c :: p.1, p.2)
  | [] => none

/-- Reads an address of eight groups. Two colons in a row stand for one group of zero or more, as
many as are missing. -/
def eight? (s : List Char) : Option (List Nat) :=
  match cutDouble? s with
  | none => (side? true s).filter fun gs => gs.length = 8
  | some (before, after) =>
    match side? false before, side? true after with
    | some front, some back =>
      if front.length + back.length ≤ 7 then
        some (front ++ List.replicate (8 - front.length - back.length) 0 ++ back)
      else none
    | _, _ => none

/-- A number in hexadecimal, in lower case. -/
def hex (n : Nat) : List Char := Nat.toDigits 16 n

/-- How many groups of zero there are in front. -/
def zeros : List Nat → Nat
  | 0 :: rest => zeros rest + 1
  | _ => 0

/-- Where the first of the longest runs of zeros begins, and how long it is. -/
def longestZeros : Nat → List Nat → Nat × Nat
  | _, [] => (0, 0)
  | start, g :: rest =>
    let here := zeros (g :: rest)
    let later := longestZeros (start + 1) rest
    if here ≠ 0 ∧ later.2 ≤ here then (start, here) else later

/-- Writes an address of eight groups; two colons stand for the first of the longest runs of
zeros, if that has two or more. -/
def renderEight (groups : List Nat) : List Char :=
  let colons := fun gs => Text.joinWith ':' (gs.map hex)
  let (start, count) := longestZeros 0 groups
  if count < 2 then colons groups
  else colons (groups.take start) ++ [':', ':'] ++ colons (groups.drop (start + count))

end Address

end RemoteSurface
