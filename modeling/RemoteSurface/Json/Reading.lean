import RemoteSurface.Json
import RemoteSurface.Text.Quoted
/-!
Reading JSON values into records. A record is read from an object, key by key in key order with
unknown keys passed over, or from an array, item by item in the order of its fields. The first
part that does not fit is the failure.
-/
namespace RemoteSurface

/-- What was found where something else was expected. -/
inductive Found where
  | null
  | bool (b : Bool)
  | number (n : JsonNumber)
  | text (s : String)
  | sequence
  | map
  | bareVariant
deriving DecidableEq

/-- Why a JSON value does not fit a type. -/
inductive ReadFailure where
  | wrongType (found : Found) (expected : String)
  | wrongValue (found : Found) (expected : String)
  | tooManyItems (count : Nat)
  | tooFewItems (count : Nat) (expected : String)
  | unknownVariant (name : String) (known : String)
  | missingField (name : String)
  | noVariant (type : String)
deriving DecidableEq

namespace Found

/-- What a value counts as. -/
def ofJson : Json → Found
  | .null => .null
  | .bool b => .bool b
  | .number n => .number n
  | .text s => .text s
  | .array _ => .sequence
  | .object _ => .map

/-- How a message names what was found. -/
def describe : Found → String
  | .null => "null"
  | .bool b => "boolean \x60" ++ (if b then "true" else "false") ++ "\x60"
  | .number (.whole n) => "integer \x60" ++ toString n ++ "\x60"
  | .number (.real x) => "floating point \x60" ++ x.document ++ "\x60"
  | .text s => "string " ++ Text.quoted s
  | .sequence => "sequence"
  | .map => "map"
  | .bareVariant => "unit variant"

end Found

namespace ReadFailure

def message : ReadFailure → String
  | .wrongType found expected => "invalid type: " ++ found.describe ++ ", expected " ++ expected
  | .wrongValue found expected => "invalid value: " ++ found.describe ++ ", expected " ++ expected
  | .tooManyItems count =>
    "invalid length " ++ toString count ++ ", expected fewer elements in array"
  | .tooFewItems count expected =>
    "invalid length " ++ toString count ++ ", expected " ++ expected
  | .unknownVariant name known => "unknown variant \x60" ++ name ++ "\x60, expected " ++ known
  | .missingField name => "missing field \x60" ++ name ++ "\x60"
  | .noVariant type => "data did not match any variant of untagged enum " ++ type

end ReadFailure

namespace Json

universe u

/-- What reading a value of a type gives. -/
abbrev Reading (α : Type u) := Except ReadFailure α

/-- The failure of a value that is of another type than expected. -/
def misfit {α : Type u} (v : Json) (expected : String) : Reading α :=
  .error (.wrongType (Found.ofJson v) expected)

def readText : Json → Reading String
  | .text s => .ok s
  | v => misfit v "a string"

def readDouble : Json → Reading Double
  | .number n => .ok n.toDouble
  | v => misfit v "f64"

def readBool : Json → Reading Bool
  | .bool b => .ok b
  | v => misfit v "a boolean"

/-- Reads an integer below a bound; `type` names the integers below it. -/
def readBelow (bound : Nat) (type : String) : Json → Reading Nat
  | .number (.whole n) =>
    if 0 ≤ n ∧ n < bound then .ok n.toNat
    else .error (.wrongValue (.number (.whole n)) type)
  | v => misfit v type

/-- Reads null as nothing and anything else as something. -/
def readOptional {α : Type u} (read : Json → Reading α) : Json → Reading (Option α)
  | .null => .ok none
  | v => (read v).map some

def readList {α : Type u} (read : Json → Reading α) : Json → Reading (List α)
  | .array items => items.mapM read
  | v => misfit v "a sequence"

/-- Reads members one after another into a table. -/
def readMembers {α : Type u} (read : Json → Reading α) : Members Json → Table α → Reading (Table α)
  | [], t => .ok t
  | (k, v) :: rest, t => (read v).bind fun a => readMembers read rest (t.put k a)

def readTable {α : Type u} (read : Json → Reading α) : Json → Reading (Table α)
  | .object members => readMembers read members .empty
  | v => misfit v "a map"

/-- Fills fields from members, in their order. -/
def fillMembers {α : Type u} (set : String → Json → α → Reading α) :
    Members Json → α → Reading α
  | [], a => .ok a
  | (k, v) :: rest, a => (set k v a).bind (fillMembers set rest)

/-- Fills fields from items, in the order of the fields; items beyond the fields are left. -/
def fillItems {α : Type u} (set : String → Json → α → Reading α) :
    List String → List Json → α → Reading α
  | k :: ks, v :: vs, a => (set k v a).bind (fillItems set ks vs)
  | _, _, a => .ok a

/-- Reads a record of the given name and fields, starting from the record in which every field
stands at its default. -/
def readRecord {α : Type u} (name : String) (fields : List String)
    (set : String → Json → α → Reading α) (start : α) : Json → Reading α
  | .object members => fillMembers set members start
  | .array items => (fillItems set fields items start).bind fun a =>
    if fields.length < items.length then .error (.tooManyItems items.length) else .ok a
  | v => misfit v ("struct " ++ name)

end Json

end RemoteSurface
