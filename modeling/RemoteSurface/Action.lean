import RemoteSurface.Message.Validation
/-!
Actions: what a user did on a surface, to be sent to the origin.
-/
namespace RemoteSurface

/-- A user action. -/
structure Action where
  name : String
  surfaceId : Option String := none
  sourceComponentId : Option String := none
  context : Table Value := .empty

namespace Action

/-- An action whose name is not read yet. -/
structure Draft where
  name : Option String := none
  surfaceId : Option String := none
  sourceComponentId : Option String := none
  context : Table Value := .empty

/-- The keys of an action, in the order of its fields. -/
def fieldNames : List String := ["name", "surfaceId", "sourceComponentId", "context"]

def setField (k : String) (v : Json) (d : Draft) : Json.Reading Draft :=
  match k with
  | "name" => (Json.readText v).map fun s => { d with name := some s }
  | "surfaceId" => (Json.readOptional Json.readText v).map fun s => { d with surfaceId := s }
  | "sourceComponentId" =>
    (Json.readOptional Json.readText v).map fun s => { d with sourceComponentId := s }
  | "context" => (DataModel.read v).map fun t => { d with context := t }
  | _ => .ok d

/-- Why an action without a name is none: an array was too short, an object lacks the key. -/
def unnamed : Json → ReadFailure
  | .array items => .tooFewItems items.length "struct Action with 4 elements"
  | _ => .missingField "name"

def read (v : Json) : Json.Reading Action :=
  (Json.readRecord "Action" fieldNames setField {} v).bind fun d =>
    match d.name with
    | some name => .ok ⟨name, d.surfaceId, d.sourceComponentId, d.context⟩
    | none => .error (unnamed v)

/-- The JSON object of an action, all four fields. -/
def toJson (a : Action) : Json :=
  .object [("context", DataModel.toJson a.context), ("name", .text a.name),
    ("sourceComponentId", .ofText? a.sourceComponentId), ("surfaceId", .ofText? a.surfaceId)]

/-- What is wrong with an action: it must say which surface it comes from. -/
def violations (a : Action) : List Violation :=
  Violation.ofBlank .actionSurface (a.surfaceId.getD "")

/-- The text that a context value gives, if it is a text, a number or a truth value. -/
def contextText? : Value → Option String
  | .text s => some s
  | .number x => some (Value.display (.number x))
  | .bool b => some (Value.display (.bool b))
  | _ => none

/-- The first text among those that keys of the context give that is not blank. -/
def contextValue? (a : Action) (keys : List String) : Option String :=
  keys.findSome? fun k =>
    ((a.context.find? k).bind contextText?).filter fun s => !Text.isBlank s

end Action

end RemoteSurface
