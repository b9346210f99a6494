import RemoteSurface.Message
/-!
Well-formedness of messages. A check never fails: it lists what is wrong, in the order of the
document. A message without violations is reduced to its only case, and nothing downstream checks
it again.
-/
namespace RemoteSurface

/-- A place whose text must not be blank. -/
inductive Place where
  | beginSurface
  | beginRoot
  | updateSurface
  | componentId (index : Nat)
  | componentType (index : Nat)
  | templateBinding (index : Nat)
  | templateComponent (index : Nat)
  | modelSurface
  | deleteSurface
  | actionSurface
deriving DecidableEq

/-- Something wrong with a message or an action. Entries are named by their positions on the way
down through nested entry lists, outermost first. -/
inductive Violation where
  | caseCount (cases : List String)
  | blank (place : Place)
  | variantCount (path : List Nat) (key : String) (count : Nat)
deriving DecidableEq

namespace Place

def componentLabel (index : Nat) : String := "surfaceUpdate.components[" ++ toString index ++ "]"

def label : Place → String
  | .beginSurface => "beginRendering.surfaceId"
  | .beginRoot => "beginRendering.root"
  | .updateSurface => "surfaceUpdate.surfaceId"
  | .componentId i => componentLabel i ++ ".id"
  | .componentType i => componentLabel i ++ ".type"
  | .templateBinding i => componentLabel i ++ ".children.template.dataBinding"
  | .templateComponent i => componentLabel i ++ ".children.template.componentId"
  | .modelSurface => "dataModelUpdate.surfaceId"
  | .deleteSurface => "deleteSurface.surfaceId"
  | .actionSurface => "action.surfaceId"

end Place

namespace Violation

/-- The name of an entry: its list and its position, within those of the entries around it. -/
def entryLabel : List Nat → String
  | [] => "dataModelUpdate.contents"
  | first :: nested =>
    nested.foldl (fun label i => label ++ ".valueMap[" ++ toString i ++ "]")
      ("dataModelUpdate.contents[" ++ toString first ++ "]")

def message : Violation → String
  | .caseCount cases =>
    "message must populate exactly one case, found " ++ toString cases.length ++ " (" ++
      (if cases.isEmpty then "none" else ", ".intercalate cases) ++ ")"
  | .blank place => place.label ++ " must not be blank"
  | .variantCount path key count =>
    entryLabel path ++ " (key '" ++ key ++ "') must set exactly one value variant, found " ++
      toString count

/-- The violation of a text that must not be blank. -/
def ofBlank (place : Place) (text : String) : List Violation :=
  if Text.isBlank text then [.blank place] else []

end Violation

namespace Entry

mutual

/-- What is wrong with an entry that stands at a path, and with the entries nested in it. -/
def violations (path : List Nat) : Entry → List Violation
  | .mk k t n b m l =>
    let count := (Entry.mk k t n b m l).variants.length
    (if count = 1 then [] else [.variantCount path k count]) ++ mapViolations path m

/-- What is wrong with the entries nested in a map variant. -/
def mapViolations (path : List Nat) : EntryMap → List Violation
  | .absent => []
  | .entries nested => listViolations path 0 nested
  | .object _ => []

/-- What is wrong with entries of one list, the first of them at a position. -/
def listViolations (path : List Nat) (index : Nat) : List Entry → List Violation
  | [] => []
  | e :: rest => violations (path ++ [index]) e ++ listViolations path (index + 1) rest

end

end Entry

namespace Message

/-- What is wrong with the case that starts a surface. -/
def beginViolations (b : BeginRendering) : List Violation :=
  Violation.ofBlank .beginSurface b.surfaceId ++ Violation.ofBlank .beginRoot b.root

/-- What is wrong with a component at a position. -/
def componentViolations (index : Nat) (c : Component) : List Violation :=
  Violation.ofBlank (.componentId index) c.id ++ Violation.ofBlank (.componentType index) c.type ++
    match c.children with
    | some (.repeated binding id) =>
      Violation.ofBlank (.templateBinding index) binding ++
        Violation.ofBlank (.templateComponent index) id
    | _ => []

/-- What is wrong with components, the first of them at a position. -/
def componentsViolations (index : Nat) : List Component → List Violation
  | [] => []
  | c :: rest => componentViolations index c ++ componentsViolations (index + 1) rest

/-- What is wrong with the case that updates components. -/
def updateViolations (u : SurfaceUpdate) : List Violation :=
  Violation.ofBlank .updateSurface u.surfaceId ++ componentsViolations 0 u.components

/-- What is wrong with the case that updates data. -/
def modelViolations (u : DataModelUpdate) : List Violation :=
  Violation.ofBlank .modelSurface u.surfaceId ++ Entry.listViolations [] 0 u.contents

/-- What is wrong with the case that removes a surface. -/
def deleteViolations (d : DeleteSurface) : List Violation :=
  Violation.ofBlank .deleteSurface d.surfaceId

/-- What is wrong with a case, if it is there. -/
def caseViolations {α : Type} (check : α → List Violation) : Option α → List Violation
  | some a => check a
  | none => []

def violations (m : Message) : List Violation :=
  (if m.populatedCases.length = 1 then [] else [.caseCount m.populatedCases]) ++
  caseViolations beginViolations m.beginRendering ++
  caseViolations updateViolations m.surfaceUpdate ++
  caseViolations modelViolations m.dataModelUpdate ++
  caseViolations deleteViolations m.deleteSurface

end Message

/-- A well-formed message, reduced to its only case. An unknown case is known by name only. -/
inductive ValidMessage where
  | beginRendering (b : BeginRendering)
  | surfaceUpdate (u : SurfaceUpdate)
  | dataModelUpdate (u : DataModelUpdate)
  | deleteSurface (d : DeleteSurface)
  | unknown (case : String)

namespace ValidMessage

def caseName : ValidMessage → String
  | .beginRendering _ => "beginRendering"
  | .surfaceUpdate _ => "surfaceUpdate"
  | .dataModelUpdate _ => "dataModelUpdate"
  | .deleteSurface _ => "deleteSurface"
  | .unknown case => case

/-- The surface that a message is addressed to; an unknown case is addressed to none. -/
def target? : ValidMessage → Option String
  | .beginRendering b => some b.surfaceId
  | .surfaceUpdate u => some u.surfaceId
  | .dataModelUpdate u => some u.surfaceId
  | .deleteSurface d => some d.surfaceId
  | .unknown _ => none

/-- The first case of a message that is there, the known ones first. -/
def firstCase (m : Message) : ValidMessage :=
  match m.beginRendering, m.surfaceUpdate, m.dataModelUpdate, m.deleteSurface with
  | some b, _, _, _ => .beginRendering b
  | none, some u, _, _ => .surfaceUpdate u
  | none, none, some u, _ => .dataModelUpdate u
  | none, none, none, some d => .deleteSurface d
  | none, none, none, none => .unknown (m.otherCases.headD "")

/-- Reduces a message to its only case, or lists what is wrong with it. -/
def ofMessage (m : Message) : Except (List Violation) ValidMessage :=
  if m.violations = [] then .ok (firstCase m) else .error m.violations

end ValidMessage

end RemoteSurface
