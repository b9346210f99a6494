import RemoteSurface.Component
/-!
Expansion of children: which components stand below a component, and the data each one sees.
-/
namespace RemoteSurface

/-- One child to show: the component and the data model it sees. -/
structure Child where
  componentId : String
  model : DataModel

namespace Children

/-- The children of a component that sees a data model. Listed children see what it sees. A
repeated component stands once for every item of the bound list, in order, and sees that item as
its own; a binding that leads to no list repeats nothing. -/
def expand (spec : Children) (m : DataModel) : List Child :=
  match spec with
  | .listed ids => ids.map fun id => ⟨id, m⟩
  | .repeated binding id =>
    let items := ((m.resolve? binding).bind Value.asList?).getD []
    items.map fun item => ⟨id, m.withItem item⟩

/-- Whether children see an item of their own. -/
def isRepeated : Children → Bool
  | .listed _ => false
  | .repeated _ _ => true

end Children

end RemoteSurface
