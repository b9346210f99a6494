import RemoteSurface.Path
/-!
Bindings: a property that is either a path into the data model, or literals, or both. What the
path leads to wins over every literal, and of the literals the first that is present wins.
-/
namespace RemoteSurface

/-- A declared value. -/
structure Binding where
  path : Option String := none
  text : Option String := none
  number : Option Double := none
  boolean : Option Bool := none
  list : Option (List Value) := none

namespace Binding

/-- The keys of a binding, in the order of its fields. -/
def fieldNames : List String :=
  ["path", "literalString", "literalNumber", "literalBoolean", "literalArray"]

/-- Sets the field of a key; other keys are passed over. -/
def setField (k : String) (v : Json) (b : Binding) : Json.Reading Binding :=
  match k with
  | "path" => (Json.readOptional Json.readText v).map fun x => { b with path := x }
  | "literalString" => (Json.readOptional Json.readText v).map fun x => { b with text := x }
  | "literalNumber" => (Json.readOptional Json.readDouble v).map fun x => { b with number := x }
  | "literalBoolean" => (Json.readOptional Json.readBool v).map fun x => { b with boolean := x }
  | "literalArray" =>
    (Json.readOptional (Json.readList Value.read) v).map fun x => { b with list := x }
  | _ => .ok b

/-- Reads a binding strictly: a field of the wrong type is a failure. -/
def read : Json → Json.Reading Binding := Json.readRecord "ValueBinding" fieldNames setField {}

/-- Reads a binding out of a property leniently: only a map with at least one of the keys is one,
and a key that holds the wrong type counts as absent. -/
def ofValue? (v : Value) : Option Binding :=
  match v.asMap? with
  | none => none
  | some members =>
    if fieldNames.any fun k => (Members.find? k members).isSome then
      some {
        path := (Members.find? "path" members).bind Value.asText?
        text := (Members.find? "literalString" members).bind Value.asText?
        number := (Members.find? "literalNumber" members).bind Value.asNumber?
        boolean := (Members.find? "literalBoolean" members).bind Value.asBool?
        list := (Members.find? "literalArray" members).bind Value.asList? }
    else none

/-- The member that a present field writes. -/
def member? {α : Type} (k : String) (write : α → Json) (field : Option α) : Members Json :=
  match field with
  | some a => [(k, write a)]
  | none => []

/-- The JSON object of a binding: the fields that are present. -/
def toJson (b : Binding) : Json :=
  .object <| Members.putAll [] <|
    member? "path" .text b.path ++ member? "literalString" .text b.text ++
    member? "literalNumber" .ofDouble b.number ++
    member? "literalBoolean" .bool b.boolean ++
    member? "literalArray" (fun xs => .array (Value.toItems xs)) b.list

/-- The first literal that is present. -/
def literal? (b : Binding) : Option Value :=
  (b.text.map .text).or <| (b.number.map .number).or <|
    (b.boolean.map .bool).or (b.list.map .list)

/-- The value of a binding: what its path leads to, else its literal, else null. -/
def value (b : Binding) (m : DataModel) : Value :=
  ((b.path.bind m.resolve?).or b.literal?).getD .null

/-- The value on display, if there is one. -/
def display? (b : Binding) (m : DataModel) : Option String :=
  match b.value m with
  | .null => none
  | v => some v.display

/-- The value as a number; a text counts if it writes one. -/
def number? (b : Binding) (m : DataModel) : Option Double :=
  match b.value m with
  | .number x => some x
  | .text s => Double.parse? (Text.trim s)
  | _ => none

/-- The value as a truth value; the two words count. -/
def bool? (b : Binding) (m : DataModel) : Option Bool :=
  match b.value m with
  | .bool t => some t
  | .text s =>
    let word := Text.trim s
    if word = "true" then some true else if word = "false" then some false else none
  | _ => none

end Binding

end RemoteSurface
