import RemoteSurface.Surface
import RemoteSurface.Message.Validation
/-!
Snapshots: every live surface at one moment, and how a message changes them. Each surface is held
with a stamp that says when it was last built or touched; two snapshots that hold the same stamps
under the same ids share their surfaces, and nobody has to compare contents to know that nothing
changed. Whoever applies a message brings a stamp that was never used before.
-/
namespace RemoteSurface

namespace Value

/-- A value with a mapping stored at the end of a path of keys. Maps on the way down are kept and
made where they are missing; anything else in the way gives place to a map. -/
def replaceAt (contents : DataModel) : Option Value → List String → Value
  | _, [] => .map contents.members
  | slot, s :: rest =>
    let members := (slot.bind asMap?).getD []
    .map (Members.put s (replaceAt contents (Members.find? s members) rest) members)

end Value

namespace DataModel

/-- A data model with a mapping stored at the end of a path of keys; at the root it takes the
place of everything. -/
def replaceAt (m : DataModel) (segments : List String) (contents : DataModel) : DataModel :=
  match segments with
  | [] => contents
  | s :: rest => m.put s (Value.replaceAt contents (m.find? s) rest)

end DataModel

/-- A surface with the stamp of its last change. -/
structure Held where
  stamp : Nat
  surface : Surface
deriving Inhabited

/-- Every live surface, under its id. -/
@[ext] structure Snapshot where
  surfaces : Table Held
deriving Inhabited

namespace Snapshot

def empty : Snapshot := ⟨.empty⟩

def surface? (s : Snapshot) (id : String) : Option Surface :=
  (s.surfaces.find? id).map Held.surface

/-- Whether a surface of an id is live. -/
def contains (s : Snapshot) (id : String) : Bool := s.surfaces.contains id

/-- The ids of the live surfaces, ascending. -/
def ids (s : Snapshot) : List String := s.surfaces.keys

/-- The live surfaces alone, whenever they were last changed. -/
def contents (s : Snapshot) : Table Surface := s.surfaces.map Held.surface

/-- Whether two snapshots hold the very same surfaces: the same ids, each with the same stamp. -/
def sharesWith (s t : Snapshot) : Bool :=
  s.surfaces.size == t.surfaces.size &&
    (s.surfaces.members.zip t.surfaces.members).all fun p =>
      p.1.1 == p.2.1 && p.1.2.stamp == p.2.2.stamp

/-- Whether the surfaces of two snapshots are alike. -/
def same (s t : Snapshot) : Bool := Surface.sameTable Surface.same s.contents t.contents

/-- Holds a surface under its id, in the place of any other. -/
def withSurface (s : Snapshot) (stamp : Nat) (surface : Surface) : Snapshot :=
  ⟨s.surfaces.put surface.id ⟨stamp, surface⟩⟩

/-- Lets go of a surface. -/
def withoutSurface (s : Snapshot) (id : String) : Snapshot := ⟨s.surfaces.erase id⟩

/-- Changes a surface, if it is live. -/
def update (s : Snapshot) (stamp : Nat) (id : String) (change : Surface → Surface) : Snapshot :=
  match s.surfaces.find? id with
  | some held => ⟨s.surfaces.put id ⟨stamp, change held.surface⟩⟩
  | none => s

end Snapshot

namespace Surface

/-- The surface that a message begins: nothing on it but its named styles. -/
def start (b : BeginRendering) : Surface :=
  { id := b.surfaceId, root := b.root, styles := b.styles.getD .empty }

/-- Puts a component on a surface, in the place of any other of its id. -/
def withComponent (s : Surface) (c : Component) : Surface :=
  { s with components := s.components.put c.id c }

/-- Puts components on a surface, one after another. -/
def withComponents (s : Surface) (cs : List Component) : Surface := cs.foldl withComponent s

/-- The path that a data update writes to; without one it writes to the root. -/
def updatePath (u : DataModelUpdate) : DataPath := DataPath.parse (u.path.getD "/")

/-- Replaces part of the data of a surface. -/
def withData (s : Surface) (u : DataModelUpdate) : Surface :=
  { s with
    dataModel := s.dataModel.replaceAt (updatePath u).segments (Entry.toModel u.contents) }

end Surface

namespace Snapshot

/-- Applies a message. Beginning a surface discards what it was before; updates of surfaces that
are not live, and unknown cases, change nothing. -/
def reduce (stamp : Nat) (s : Snapshot) : ValidMessage → Snapshot
  | .beginRendering b => s.withSurface stamp (Surface.start b)
  | .surfaceUpdate u =>
    s.update stamp u.surfaceId fun surface => surface.withComponents u.components
  | .dataModelUpdate u => s.update stamp u.surfaceId fun surface => surface.withData u
  | .deleteSurface d => s.withoutSurface d.surfaceId
  | .unknown _ => s

/-- A message with the stamp it is applied under. -/
abbrev Stamped := Nat × ValidMessage

/-- Applies messages one after another, each under its stamp. -/
def replay (s : Snapshot) (ms : List Stamped) : Snapshot :=
  ms.foldl (fun s m => s.reduce m.1 m.2) s

def surfaceSummary (id : String) (s : Surface) : String :=
  " " ++ id ++ "(root=" ++ s.root ++ " components=" ++ toString s.components.size ++
    " keys=" ++ toString s.dataModel.size ++ ")"

/-- A snapshot on one line: how many surfaces, and of each its id, its root, and the numbers of
its components and of the keys of its data. -/
def summary (s : Snapshot) : String :=
  "surfaces=" ++ toString s.surfaces.size ++
    String.join (s.contents.members.map fun m => surfaceSummary m.1 m.2)

end Snapshot

end RemoteSurface
