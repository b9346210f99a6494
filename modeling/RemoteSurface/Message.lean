import RemoteSurface.Message.Entry
import RemoteSurface.Component
import RemoteSurface.Style
import RemoteSurface.Json.Source
/-!
Messages from the origin. A message is an object whose members are cases; four of them are known.
Members of other names are kept as they are, so that a message with a known and an unknown case
is not taken for the known one alone.
-/
namespace RemoteSurface

/-- Starts a surface anew. -/
structure BeginRendering where
  surfaceId : String := ""
  root : String := ""
  styles : Option (Table StyleFields) := none

/-- Adds or replaces components of a surface. -/
structure SurfaceUpdate where
  surfaceId : String := ""
  components : List Component := []

/-- Replaces part of the data of a surface. -/
structure DataModelUpdate where
  surfaceId : String := ""
  path : Option String := none
  contents : List Entry := []

/-- Removes a surface. -/
structure DeleteSurface where
  surfaceId : String := ""

/-- One message: its known cases and its other members. -/
structure Message where
  beginRendering : Option BeginRendering := none
  surfaceUpdate : Option SurfaceUpdate := none
  dataModelUpdate : Option DataModelUpdate := none
  deleteSurface : Option DeleteSurface := none
  other : Table Json := .empty

/-- Why a payload is no message. -/
inductive DecodeFailure where
  | notJson
  | misfit (failure : ReadFailure)
  | notAnObject (kind : String)
deriving DecidableEq

/-- The text of a failure. A payload that breaks the grammar is not described further. -/
def DecodeFailure.message : DecodeFailure → String
  | .notJson => "payload is not valid JSON: <syntax>"
  | .misfit failure => "payload is not valid JSON: " ++ failure.message
  | .notAnObject kind => "payload must be a JSON object, got " ++ kind

namespace BeginRendering

def setField (k : String) (v : Json) (b : BeginRendering) : Json.Reading BeginRendering :=
  match k with
  | "surfaceId" => (Json.readText v).map fun s => { b with surfaceId := s }
  | "root" => (Json.readText v).map fun s => { b with root := s }
  | "styles" =>
    (Json.readOptional (Json.readTable DataModel.read) v).map fun t => { b with styles := t }
  | _ => .ok b

def read : Json → Json.Reading BeginRendering :=
  Json.readRecord "BeginRendering" ["surfaceId", "root", "styles"] setField {}

def toJson (b : BeginRendering) : Json :=
  .object <|
    [("root", .text b.root)] ++
    (match b.styles with
      | some t => [("styles", .object (t.members.mapValues DataModel.toJson))]
      | none => []) ++
    [("surfaceId", .text b.surfaceId)]

end BeginRendering

namespace SurfaceUpdate

def setField (k : String) (v : Json) (u : SurfaceUpdate) : Json.Reading SurfaceUpdate :=
  match k with
  | "surfaceId" => (Json.readText v).map fun s => { u with surfaceId := s }
  | "components" => (Json.readList Component.read v).map fun cs => { u with components := cs }
  | _ => .ok u

def read : Json → Json.Reading SurfaceUpdate :=
  Json.readRecord "SurfaceUpdate" ["surfaceId", "components"] setField {}

def toJson (u : SurfaceUpdate) : Json :=
  .object [("components", .array (u.components.map Component.toJson)),
    ("surfaceId", .text u.surfaceId)]

end SurfaceUpdate

namespace DataModelUpdate

def setField (k : String) (v : Json) (u : DataModelUpdate) : Json.Reading DataModelUpdate :=
  match k with
  | "surfaceId" => (Json.readText v).map fun s => { u with surfaceId := s }
  | "path" => (Json.readOptional Json.readText v).map fun p => { u with path := p }
  | "contents" => (Entry.readEntries v).map fun es => { u with contents := es }
  | _ => .ok u

def read : Json → Json.Reading DataModelUpdate :=
  Json.readRecord "DataModelUpdate" ["surfaceId", "path", "contents"] setField {}

def toJson (u : DataModelUpdate) : Json :=
  .object <|
    [("contents", .array (Entry.listToJson u.contents))] ++
    (match u.path with
      | some p => [("path", .text p)]
      | none => []) ++
    [("surfaceId", .text u.surfaceId)]

end DataModelUpdate

namespace DeleteSurface

def setField (k : String) (v : Json) (d : DeleteSurface) : Json.Reading DeleteSurface :=
  match k with
  | "surfaceId" => (Json.readText v).map fun s => { d with surfaceId := s }
  | _ => .ok d

def read : Json → Json.Reading DeleteSurface :=
  Json.readRecord "DeleteSurface" ["surfaceId"] setField {}

def toJson (d : DeleteSurface) : Json := .object [("surfaceId", .text d.surfaceId)]

end DeleteSurface

namespace Message

/-- The key of the surface that a case is about. -/
def surfaceKey : String := "surfaceId"

/-- Sets the case of a member; a member that is no known case is kept as it is. -/
def setCase (k : String) (v : Json) (m : Message) : Json.Reading Message :=
  match k with
  | "beginRendering" =>
    (Json.readOptional BeginRendering.read v).map fun b => { m with beginRendering := b }
  | "surfaceUpdate" =>
    (Json.readOptional SurfaceUpdate.read v).map fun u => { m with surfaceUpdate := u }
  | "dataModelUpdate" =>
    (Json.readOptional DataModelUpdate.read v).map fun u => { m with dataModelUpdate := u }
  | "deleteSurface" =>
    (Json.readOptional DeleteSurface.read v).map fun d => { m with deleteSurface := d }
  | _ => .ok { m with other := m.other.put k v }

/-- Reads a message out of the members of its object. -/
def readMembers (members : Members Json) : Json.Reading Message :=
  Json.fillMembers setCase members {}

/-- What kind of value stands where an object should. -/
def kindName : Json → String
  | .null => "null"
  | .bool _ => "boolean"
  | .number _ => "number"
  | .text _ => "string"
  | .array _ => "array"
  | .object _ => "object"

/-- The message that a JSON value is. -/
def ofJson (v : Json) : Except DecodeFailure Message :=
  match v with
  | .object members => (readMembers members).mapError .misfit
  | other => .error (.notAnObject (kindName other))

def decode (payload : String) : Except DecodeFailure Message :=
  match Json.parse? payload with
  | some v => ofJson v
  | none => .error .notJson

/-- The members that a case writes when it is there. -/
def caseMember {α : Type} (k : String) (write : α → Json) (c : Option α) : Members Json :=
  match c with
  | some a => [(k, write a)]
  | none => []

/-- The JSON object of a message: the cases that are there, and the other members. -/
def toJson (m : Message) : Json :=
  .object <| (m.other.putAll <|
    caseMember "beginRendering" BeginRendering.toJson m.beginRendering ++
    caseMember "surfaceUpdate" SurfaceUpdate.toJson m.surfaceUpdate ++
    caseMember "dataModelUpdate" DataModelUpdate.toJson m.dataModelUpdate ++
    caseMember "deleteSurface" DeleteSurface.toJson m.deleteSurface).members

/-- The members beyond the known cases that hold something. -/
def otherCases (m : Message) : List String :=
  (m.other.members.filter fun o => !o.2.isNull).map Prod.fst

/-- The names of the cases that are populated, the known ones first. -/
def populatedCases (m : Message) : List String :=
  (if m.beginRendering.isSome then ["beginRendering"] else []) ++
  (if m.surfaceUpdate.isSome then ["surfaceUpdate"] else []) ++
  (if m.dataModelUpdate.isSome then ["dataModelUpdate"] else []) ++
  (if m.deleteSurface.isSome then ["deleteSurface"] else []) ++
  m.otherCases

/-- The surface that a raw case names. -/
def rawSurface? (v : Json) : Option String := (v.get? surfaceKey).bind Json.asText?

/-- The surface that some member names: the first that names one. -/
def firstSurface? (members : Members Json) : Option String :=
  members.findSome? fun o => rawSurface? o.2

/-- A surface id counts only if it is not blank. -/
def unlessBlank (id : Option String) : Option String := id.filter fun s => !Text.isBlank s

theorem filled_of_unlessBlank {named : Option String} {id : String}
    (kept : unlessBlank named = some id) : Text.isBlank id = false := by
  have filled := (Option.filter_eq_some_iff.mp kept).2
  simpa using filled

/-- The surface that a message is about: what its first known case says, or what the first other
member that names a surface says. -/
def surfaceId? (m : Message) : Option String :=
  unlessBlank <|
    (m.beginRendering.map (·.surfaceId)).or <| (m.surfaceUpdate.map (·.surfaceId)).or <|
      (m.dataModelUpdate.map (·.surfaceId)).or <| (m.deleteSurface.map (·.surfaceId)).or <|
        firstSurface? m.other.members

/-- The surface that a payload seems to be about, whether or not it decodes. -/
def surfaceHint? (payload : String) : Option String :=
  match Json.parse? payload with
  | some (.object members) => unlessBlank (firstSurface? members)
  | _ => none

end Message

end RemoteSurface
