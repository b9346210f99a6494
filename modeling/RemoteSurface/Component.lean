import RemoteSurface.Path
import RemoteSurface.Json.Source
/-!
Components and their children. Children are either listed by id, or one component is repeated for
every item of a list in the data model.
-/
namespace RemoteSurface

/-- The children of a component. -/
inductive Children where
  | listed (ids : List String)
  | repeated (dataBinding componentId : String)
deriving DecidableEq, Inhabited

/-- A node of a surface. Its type means something to whoever renders it, and its properties are
free. -/
structure Component where
  id : String := ""
  type : String := ""
  props : Value := .null
  weight : Option Double := none
  children : Option Children := none
deriving Inhabited

namespace Children

/-- The two fields of repeated children, as they are filled. -/
structure Template where
  dataBinding : String := ""
  componentId : String := ""

/-- Sets the field of a key of repeated children. -/
def setTemplate (k : String) (v : Json) (t : Template) : Json.Reading Template :=
  match k with
  | "dataBinding" => (Json.readText v).map fun s => { t with dataBinding := s }
  | "componentId" => (Json.readText v).map fun s => { t with componentId := s }
  | _ => .ok t

/-- Reads repeated children; only an object will do. -/
def readTemplate : Json → Json.Reading Children
  | .object members =>
    (Json.fillMembers setTemplate members {}).map fun t => .repeated t.dataBinding t.componentId
  | v => v.misfit "struct variant"

/-- The failure of an unknown kind of children. -/
def unknown (name : String) : ReadFailure :=
  .unknownVariant name "\x60explicitList\x60 or \x60template\x60"

/-- Reads children: an object with one member, whose key says which kind they are. -/
def read : Json → Json.Reading Children
  | .object [("explicitList", v)] => (Json.readList Json.readText v).map .listed
  | .object [("template", v)] => readTemplate v
  | .object [(name, _)] => .error (unknown name)
  | .object _ => .error (.wrongValue .map "map with a single key")
  | .text "explicitList" => .error (.wrongType .bareVariant "newtype variant")
  | .text "template" => .error (.wrongType .bareVariant "struct variant")
  | .text name => .error (unknown name)
  | v => v.misfit "string or map"

def toJson : Children → Json
  | .listed ids => .object [("explicitList", .array (ids.map .text))]
  | .repeated binding id =>
    .object [("template", .object [("componentId", .text id), ("dataBinding", .text binding)])]

end Children

namespace Component

/-- The keys of a component, in the order of its fields. -/
def fieldNames : List String := ["id", "type", "props", "weight", "children"]

def setField (k : String) (v : Json) (c : Component) : Json.Reading Component :=
  match k with
  | "id" => (Json.readText v).map fun s => { c with id := s }
  | "type" => (Json.readText v).map fun s => { c with type := s }
  | "props" => .ok { c with props := .ofJson v }
  | "weight" => (Json.readOptional Json.readDouble v).map fun x => { c with weight := x }
  | "children" => (Json.readOptional Children.read v).map fun x => { c with children := x }
  | _ => .ok c

def read : Json → Json.Reading Component := Json.readRecord "Component" fieldNames setField {}

/-- The JSON object of a component. Weight and children stand in it when they are set. -/
def toJson (c : Component) : Json :=
  .object <|
    (match c.children with
      | some spec => [("children", spec.toJson)]
      | none => []) ++
    [("id", .text c.id), ("props", c.props.toJson), ("type", .text c.type)] ++
    (match c.weight with
      | some x => [("weight", .ofDouble x)]
      | none => [])

/-- What a key of the properties holds. -/
def prop? (c : Component) (name : String) : Option Value := c.props.get? name

/-- Whether two optional weights are one. -/
def sameWeight : Option Double → Option Double → Bool
  | none, none => true
  | some x, some y => x.same y
  | _, _ => false

/-- Whether two components are alike: equal but for the sign of zeros. -/
def same (c d : Component) : Bool :=
  c.id == d.id && c.type == d.type && c.props.same d.props && sameWeight c.weight d.weight &&
    c.children == d.children

end Component

end RemoteSurface
