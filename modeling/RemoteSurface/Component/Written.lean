import RemoteSurface.Component
import RemoteSurface.Json.Source
/-!
Reading a component straight from its written text. Unknown keys are passed over unread, so what
they hold need only be well written; a known key must not stand twice; and repeated children may
be written as an array of their two fields. A text that fails says nothing of why.
-/
namespace RemoteSurface

namespace Children

/-- The keys of repeated children, in the order of their fields. -/
def templateNames : List String := ["dataBinding", "componentId"]

/-- Reads children as written, with `room` containers left to open. -/
def ofSource? (room : Nat) (s : Source) : Option Children :=
  match s with
  | .object [(some "template", t)] =>
    if room < 2 then none
    else
      (Source.fields? templateNames t).bind fun written =>
        let valued := written.mapM fun (m : String × Source) =>
          (m.2.value? (room - 2)).map fun v => (m.1, v)
        valued.bind fun ms => (Json.fillMembers setTemplate ms {}).toOption.map fun t =>
          .repeated t.dataBinding t.componentId
  | .object (_ :: _ :: _) => none
  | other => (other.value? room).bind fun v => (read v).toOption

end Children

namespace Component

/-- Sets a field from what is written under its key, with `room` containers left to open. -/
def setWritten (room : Nat) (c : Component) (m : String × Source) : Option Component :=
  match m with
  | ("children", .null) => some { c with children := none }
  | ("children", s) => (Children.ofSource? room s).map fun spec => { c with children := spec }
  | (k, s) => (s.value? room).bind fun v => (setField k v c).toOption

def ofSource? (s : Source) : Option Component :=
  (Source.fields? fieldNames s).bind fun ms => ms.foldlM (setWritten (Source.maxDepth - 1)) {}

def parse? (text : String) : Option Component := (Source.parse? text.toList).bind ofSource?

end Component

end RemoteSurface
