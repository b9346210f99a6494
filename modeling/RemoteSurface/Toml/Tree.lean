import RemoteSurface.Json
/-!
The tables of a TOML document while it is read. Each table remembers how it came to be, since that
decides what may still be added to it: a table may be named by one header only, a table made by
dotted keys by none, and a value never grows.
-/
namespace RemoteSurface

namespace Toml

/-- How a table came to be: on the way to a deeper header, by a header of its own, or on the way
of a dotted key. -/
inductive Made where
  | byTheWay
  | byHeader
  | byDots
deriving DecidableEq

/-- What a key holds: a value, a table, or an array of tables, the last one first. -/
inductive Node where
  | leaf (v : Json)
  | table (made : Made) (members : List (String × Node))
  | tables (back : List (List (String × Node)))
deriving Inhabited

abbrev Nodes := Members Node

namespace Node

mutual

/-- The JSON value of what a key holds. -/
def toJson : Node → Json
  | .leaf v => v
  | .table _ members => .object (toMembers members)
  | .tables back => .array (toTables back).reverse

/-- The JSON members of a table, in key order. -/
def toMembers : List (String × Node) → List (String × Json)
  | [] => []
  | (k, n) :: rest => Members.put k (toJson n) (toMembers rest)

def toTables : List (List (String × Node)) → List Json
  | [] => []
  | t :: rest => .object (toMembers t) :: toTables rest

end

end Node

namespace Nodes

/-- Changes the table at the end of a path of keys. Tables are made where they are missing; in an
array of tables the way goes through the last one. -/
def changeAt (change : Nodes → Option Nodes) : List String → Nodes → Option Nodes
  | [], ms => change ms
  | k :: rest, ms =>
    match Members.find? k ms with
    | none => (changeAt change rest []).map fun sub => Members.put k (.table .byTheWay sub) ms
    | some (.table made sub) =>
      (changeAt change rest sub).map fun sub => Members.put k (.table made sub) ms
    | some (.tables (last :: before)) =>
      (changeAt change rest last).map fun last => Members.put k (.tables (last :: before)) ms
    | some _ => none

/-- A header names a table: it is new, or was made on the way to a deeper header. -/
def nameTable (k : String) (ms : Nodes) : Option Nodes :=
  match Members.find? k ms with
  | none => some (Members.put k (.table .byHeader []) ms)
  | some (.table .byTheWay sub) => some (Members.put k (.table .byHeader sub) ms)
  | some _ => none

/-- A header adds a table to an array of tables. -/
def addTable (k : String) (ms : Nodes) : Option Nodes :=
  match Members.find? k ms with
  | none => some (Members.put k (.tables [[]]) ms)
  | some (.tables back) => some (Members.put k (.tables ([] :: back)) ms)
  | some _ => none

/-- A dotted key stores a value that is not there yet. The table that gets it was made by dotted
keys too. -/
def store (v : Json) : List String → Nodes → Option Nodes
  | [], _ => none
  | [k], ms =>
    match Members.find? k ms with
    | none => some (Members.put k (.leaf v) ms)
    | some _ => none
  | k :: next :: rest, ms =>
    match Members.find? k ms with
    | none =>
      (store v (next :: rest) []).map fun sub => Members.put k (.table .byDots sub) ms
    | some (.table .byDots sub) =>
      (store v (next :: rest) sub).map fun sub => Members.put k (.table .byDots sub) ms
    | some (.table .byTheWay sub) =>
      if rest.isEmpty then none
      else (store v (next :: rest) sub).map fun sub => Members.put k (.table .byTheWay sub) ms
    | some _ => none

end Nodes

/-- A document under way: everything so far, and the path of the last header. -/
structure Tree where
  root : Nodes := []
  header : List String := []

namespace Tree

def openTable (t : Tree) (path : List String) : Option Tree :=
  (Nodes.changeAt (Nodes.nameTable (path.getLastD "")) path.dropLast t.root).map fun root =>
    ⟨root, path⟩

/-- A header of one more table of an array. -/
def openItem (t : Tree) (path : List String) : Option Tree :=
  (Nodes.changeAt (Nodes.addTable (path.getLastD "")) path.dropLast t.root).map fun root =>
    ⟨root, path⟩

/-- A key with its value, under the last header. -/
def set (t : Tree) (path : List String) (v : Json) : Option Tree :=
  (Nodes.changeAt (Nodes.store v path) t.header t.root).map fun root => { t with root := root }

end Tree

end Toml

end RemoteSurface
