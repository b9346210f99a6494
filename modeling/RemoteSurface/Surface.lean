import RemoteSurface.Children
import RemoteSurface.Style
/-!
Surfaces: one region of a user interface each, with its components, its data and its named styles;
and the style that a component on a surface shows.
-/
namespace RemoteSurface

/-- A surface. -/
structure Surface where
  id : String
  root : String
  components : Table Component := .empty
  dataModel : DataModel := .empty
  styles : Table StyleFields := .empty
deriving Inhabited

namespace Surface

def component? (s : Surface) (id : String) : Option Component := s.components.find? id

/-- The component everything else hangs under. -/
def rootComponent? (s : Surface) : Option Component := s.component? s.root

/-- Whether the members of two tables are alike one by one. -/
def sameTable {α : Type} (same : α → α → Bool) (s t : Table α) : Bool :=
  s.keys == t.keys && (s.members.zip t.members).all fun p => same p.1.2 p.2.2

/-- Whether two surfaces are alike: equal but for the sign of zeros. -/
def same (s t : Surface) : Bool :=
  s.id == t.id && s.root == t.root && sameTable Component.same s.components t.components &&
    s.dataModel.same t.dataModel && sameTable DataModel.same s.styles t.styles

end Surface

namespace Style

/-- The key of a style entry that names a style to start from. -/
def refKey : String := "ref"

/-- Lays a named style of a surface over a style. A name without a style adds nothing. -/
def applyNamed (styles : Table StyleFields) (s : Style) (name : String) : Style :=
  match styles.find? name with
  | some fields => s.apply fields
  | Option.none => s

/-- Lays one style entry over a style: a text names a style; a map may name one to start from and
adds its other members; anything else adds nothing. -/
def applyEntry (styles : Table StyleFields) (s : Style) : Value → Style
  | .text name => s.applyNamed styles name
  | .map members =>
    let base := match (Members.find? refKey members).bind Value.asText? with
      | some name => s.applyNamed styles name
      | Option.none => s
    base.applyAll (members.filter fun m => m.1 != refKey)
  | _ => s

/-- The style entries of a component: its `style` property, a lone entry counting as a list. -/
def entries (c : Component) : List Value :=
  match c.prop? "style" with
  | some (.list items) => items
  | some (.text name) => [.text name]
  | some (.map members) => [.map members]
  | _ => []

/-- The style of a component on a surface: its entries laid one over another. -/
def resolve (c : Component) (surface : Surface) : Style :=
  (entries c).foldl (applyEntry surface.styles) Style.none

end Style

end RemoteSurface
