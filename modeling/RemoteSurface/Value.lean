import RemoteSurface.Json.Reading
/-!
Values: what data models, component properties and styles are made of. A value is a JSON value
whose numbers are all doubles, so an integer and the decimal equal to it are one value.
-/
namespace RemoteSurface

/-- A value of a data model. -/
inductive Value where
  | null
  | bool (b : Bool)
  | number (x : Double)
  | text (s : String)
  | list (items : List Value)
  | map (members : List (String × Value))
deriving Inhabited

abbrev DataModel := Table Value

namespace Value

mutual

/-- The value that a JSON value denotes. -/
def ofJson : Json → Value
  | .null => .null
  | .bool b => .bool b
  | .number n => .number n.toDouble
  | .text s => .text s
  | .array items => .list (ofItems items)
  | .object members => .map (ofMembers members)

def ofItems : List Json → List Value
  | [] => []
  | v :: rest => ofJson v :: ofItems rest

def ofMembers : List (String × Json) → List (String × Value)
  | [] => []
  | (k, v) :: rest => (k, ofJson v) :: ofMembers rest

end

mutual

/-- The JSON value that denotes a value. -/
def toJson : Value → Json
  | .null => .null
  | .bool b => .bool b
  | .number x => .ofDouble x
  | .text s => .text s
  | .list items => .array (toItems items)
  | .map members => .object (toMembers members)

def toItems : List Value → List Json
  | [] => []
  | v :: rest => toJson v :: toItems rest

def toMembers : List (String × Value) → List (String × Json)
  | [] => []
  | (k, v) :: rest => (k, toJson v) :: toMembers rest

end

mutual

/-- Whether two values are alike: equal but for the sign of zeros. -/
def same : Value → Value → Bool
  | .null, .null => true
  | .bool a, .bool b => a == b
  | .number x, .number y => x.same y
  | .text s, .text t => s == t
  | .list xs, .list ys => sameItems xs ys
  | .map xs, .map ys => sameMembers xs ys
  | _, _ => false

/-- Whether items are alike one by one. -/
def sameItems : List Value → List Value → Bool
  | [], [] => true
  | x :: xs, y :: ys => same x y && sameItems xs ys
  | _, _ => false

/-- Whether members are alike one by one. -/
def sameMembers : List (String × Value) → List (String × Value) → Bool
  | [], [] => true
  | (j, x) :: xs, (k, y) :: ys => j == k && same x y && sameMembers xs ys
  | _, _ => false

end

def isNull : Value → Bool
  | .null => true
  | _ => false

def asText? : Value → Option String
  | .text s => some s
  | _ => none

def asNumber? : Value → Option Double
  | .number x => some x
  | _ => none

/-- The truth value of a truth value. -/
def asBool? : Value → Option Bool
  | .bool b => some b
  | _ => none

def asList? : Value → Option (List Value)
  | .list items => some items
  | _ => none

def asMap? : Value → Option (Members Value)
  | .map members => some members
  | _ => none

/-- What a key of a map holds. -/
def get? (v : Value) (k : String) : Option Value := v.asMap?.bind (Members.find? k)

/-- How many items or members a list or map has. -/
def size? : Value → Option Nat
  | .list items => some items.length
  | .map members => some members.length
  | _ => none

/-- A number on display: a whole number below a quadrillion without a sign on zero, any other in
the display form of doubles. -/
def numberDisplay (x : Double) : String :=
  match x.wholeMagnitude? with
  | some n =>
    if n < Nat.pow 10 15 then (if x.isNegative && 0 < n then "-" else "") ++ toString n
    else x.display
  | none => x.display

/-- A value on display: null is empty, a text is itself, a list or map is its JSON text. -/
def display : Value → String
  | .null => ""
  | .bool b => if b then "true" else "false"
  | .number x => numberDisplay x
  | .text s => s
  | .list items => (toJson (.list items)).render
  | .map members => (toJson (.map members)).render

/-- Reads a value; every JSON value is one. -/
def read (v : Json) : Json.Reading Value := .ok (ofJson v)

end Value

namespace DataModel

def read : Json → Json.Reading DataModel := Json.readTable Value.read

/-- The JSON object of a data model. -/
def toJson (m : DataModel) : Json := .object (Value.toMembers m.members)

def same (a b : DataModel) : Bool := Value.sameMembers a.members b.members

end DataModel

end RemoteSurface
