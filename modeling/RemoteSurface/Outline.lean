import RemoteSurface.Surface
import RemoteSurface.Binding
/-!
Outlines: what a surface shows, as a tree of its components with their properties resolved. The
tree is cut off at a depth, since components may stand below themselves.
-/
namespace RemoteSurface

/-- A property as it is shown: the text of a binding, if it has one, or the value on display. -/
inductive Shown where
  | bound (text : Option String)
  | plain (text : String)

/-- One node of an outline. -/
inductive Outline where
  | missing (id : String)
  | node (id type : String) (style : StyleFields) (props : List (String × Shown))
      (children : List Outline)

namespace Outline

/-- How a property is shown to a component that sees a data model. -/
def shown (m : DataModel) (v : Value) : Shown :=
  match Binding.ofValue? v with
  | some b => .bound (b.display? m)
  | none => .plain v.display

/-- The properties of a component as they are shown; its style is no property. -/
def props (c : Component) (m : DataModel) : List (String × Shown) :=
  ((c.props.asMap?.getD []).filter fun p => p.1 != "style").map fun p => (p.1, shown m p.2)

/-- The outline below a component, at most `depth` components further down. -/
def build (s : Surface) (depth : Nat) (id : String) (m : DataModel) : Outline :=
  match s.component? id with
  | none => .missing id
  | some c =>
    let below := match depth with
      | 0 => []
      | n + 1 =>
        match c.children with
        | some spec => (spec.expand m).map fun child => build s n child.componentId child.model
        | none => []
    .node id c.type (Style.resolve c s).toFields (props c m) below

/-- How many components below the root an outline shows. -/
def maxDepth : Nat := 8

def ofSurface (s : Surface) : Outline := build s maxDepth s.root s.dataModel

end Outline

end RemoteSurface
