import RemoteSurface.Number.Written
import RemoteSurface.Table
/-!
JSON values and their compact text. Integers stay integers as long as they fit sixty-four bits;
every other number is a double. The members of an object ascend by key.
-/
namespace RemoteSurface

/-- A number of a JSON document. -/
inductive JsonNumber where
  | whole (n : Int)
  | real (x : Double)
deriving DecidableEq, Inhabited

/-- The number as a double; an integer is rounded to the nearest one. -/
def JsonNumber.toDouble : JsonNumber → Double
  | .whole n => Double.ofInt n
  | .real x => x

/-- A JSON value. -/
inductive Json where
  | null
  | bool (b : Bool)
  | number (n : JsonNumber)
  | text (s : String)
  | array (items : List Json)
  | object (members : List (String × Json))
deriving Inhabited

namespace Json

/-- The text of an integer or of a double in document form. -/
def numberText : JsonNumber → String
  | .whole n => toString n
  | .real x => x.document

/-- Two hexadecimal digits. -/
def hexPair (n : Nat) : List Char :=
  [Nat.digitChar (n / 16), Nat.digitChar (n % 16)]

/-- One character inside a JSON string. Only quotes, backslashes and controls are escaped. -/
def escapedChar (c : Char) : List Char :=
  match c with
  | '"' => ['\\', '"']
  | '\\' => ['\\', '\\']
  | '\x08' => ['\\', 'b']
  | '\x0c' => ['\\', 'f']
  | '\n' => ['\\', 'n']
  | '\r' => ['\\', 'r']
  | '\t' => ['\\', 't']
  | _ => if c.toNat < 0x20 then ['\\', 'u', '0', '0'] ++ hexPair c.toNat else [c]

/-- A text as a JSON string. -/
def stringChars (s : String) : List Char := '"' :: s.toList.flatMap escapedChar ++ ['"']

mutual

/-- The compact text of a value: no blanks, members in their order. -/
def chars : Json → List Char
  | .null => ['n', 'u', 'l', 'l']
  | .bool true => ['t', 'r', 'u', 'e']
  | .bool false => ['f', 'a', 'l', 's', 'e']
  | .number n => (numberText n).toList
  | .text s => stringChars s
  | .array items => '[' :: itemChars items ++ [']']
  | .object members => '\x7b' :: memberChars members ++ ['\x7d']

def itemChars : List Json → List Char
  | [] => []
  | [v] => chars v
  | v :: rest => chars v ++ ',' :: itemChars rest

def memberChars : List (String × Json) → List Char
  | [] => []
  | [(k, v)] => stringChars k ++ ':' :: chars v
  | (k, v) :: rest => stringChars k ++ ':' :: chars v ++ ',' :: memberChars rest

end

def render (v : Json) : String := String.ofList v.chars

/-- What a key of an object holds; other values have no keys. -/
def get? (k : String) : Json → Option Json
  | .object members => Members.find? k members
  | _ => none

def asText? : Json → Option String
  | .text s => some s
  | _ => none

def isNull : Json → Bool
  | .null => true
  | _ => false

/-- A double as a JSON value: a number if it is finite, and null otherwise. -/
def ofDouble (x : Double) : Json := if x.isFinite then .number (.real x) else .null

theorem ofDouble_of_finite {x : Double} (finite : x.isFinite = true) :
    ofDouble x = .number (.real x) :=
  if_pos finite

/-- An optional text, null for none. -/
def ofText? : Option String → Json
  | some s => .text s
  | none => .null

end Json

end RemoteSurface
