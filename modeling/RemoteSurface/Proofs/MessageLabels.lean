import RemoteSurface.Proofs.MessageDefects
import RemoteSurface.Proofs.RereadMessages
/-!
Labels of violations. A violation names what it is about by the way that leads there in the
document of the message: a case, then members behind dots and positions of items in brackets.
-/
namespace RemoteSurface

namespace Json

/-- One step into a value: to the member of a key, or to the item at a position. -/
inductive Step where
  | member (key : String)
  | item (index : Nat)

/-- The item at a position of an array; other values have no items. -/
def item? (i : Nat) : Json → Option Json
  | .array items => items[i]?
  | _ => none

def step? (v : Json) : Step → Option Json
  | .member k => v.get? k
  | .item i => v.item? i

/-- What steps lead to from a value. -/
def follow? (v : Json) (steps : List Step) : Option Json := steps.foldlM step? v

theorem follow?_cons {v w : Json} {step : Step} (found : v.step? step = some w)
    (steps : List Step) : v.follow? (step :: steps) = w.follow? steps := by
  rw [follow?, List.foldlM_cons, found]
  rfl

end Json

/-- A way into a document: a case, and steps from there. -/
structure Address where
  case : String
  steps : List Json.Step

/-- What an address leads to in a document. -/
def Json.at? (v : Json) (a : Address) : Option Json := v.follow? (.member a.case :: a.steps)

namespace Address

def spellStep (label : String) : Json.Step → String
  | .member k => label ++ "." ++ k
  | .item i => label ++ "[" ++ toString i ++ "]"

def spell (a : Address) : String := a.steps.foldl spellStep a.case

def ofComponent (i : Nat) (field : List Json.Step) : Address :=
  ⟨"surfaceUpdate", .member "components" :: .item i :: field⟩

/-- The address of a text that must not be blank. -/
def ofPlace : Place → Address
  | .beginSurface => ⟨"beginRendering", [.member "surfaceId"]⟩
  | .beginRoot => ⟨"beginRendering", [.member "root"]⟩
  | .updateSurface => ⟨"surfaceUpdate", [.member "surfaceId"]⟩
  | .componentId i => ofComponent i [.member "id"]
  | .componentType i => ofComponent i [.member "type"]
  | .templateBinding i =>
    ofComponent i [.member "children", .member "template", .member "dataBinding"]
  | .templateComponent i =>
    ofComponent i [.member "children", .member "template", .member "componentId"]
  | .modelSurface => ⟨"dataModelUpdate", [.member "surfaceId"]⟩
  | .deleteSurface => ⟨"deleteSurface", [.member "surfaceId"]⟩
  | .actionSurface => ⟨"action", [.member "surfaceId"]⟩

/-- The steps to an entry nested in an entry. -/
def below (positions : List Nat) : List Json.Step :=
  positions.flatMap fun i => [.member "valueMap", .item i]

/-- The address of the entry that positions lead to. -/
def ofEntry : List Nat → Address
  | [] => ⟨"dataModelUpdate", [.member "contents"]⟩
  | i :: nested => ⟨"dataModelUpdate", .member "contents" :: .item i :: below nested⟩

theorem spellStep_member (label k : String) :
    spellStep label (.member k) = label ++ ("." ++ k) :=
  String.append_assoc

theorem spell_ofComponent (i : Nat) (field : List Json.Step) :
    (ofComponent i field).spell = field.foldl spellStep (Place.componentLabel i) := rfl

theorem spell_ofPlace (place : Place) : (ofPlace place).spell = place.label := by
  cases place with
  | componentId i => exact spellStep_member _ _
  | componentType i => exact spellStep_member _ _
  | templateBinding i =>
    rw [ofPlace, spell_ofComponent]
    simp only [List.foldl, spellStep_member, Place.label, String.append_assoc]
    rfl
  | templateComponent i =>
    rw [ofPlace, spell_ofComponent]
    simp only [List.foldl, spellStep_member, Place.label, String.append_assoc]
    rfl
  | _ => rfl

theorem spell_ofEntry (path : List Nat) : (ofEntry path).spell = Violation.entryLabel path := by
  cases path with
  | nil => rfl
  | cons i nested =>
    have spelled : ∀ (label : String) (j : Nat),
        [Json.Step.member "valueMap", .item j].foldl spellStep label =
          label ++ ".valueMap[" ++ toString j ++ "]" := by
      intro label j
      simp only [List.foldl, spellStep, String.append_assoc]
      rfl
    rw [ofEntry, spell, List.foldl_cons, List.foldl_cons, below, List.foldl_flatMap,
      Violation.entryLabel]
    simp only [spelled]
    rfl

example : (ofEntry [2, 0]).spell = "dataModelUpdate.contents[2].valueMap[0]" := by decide

end Address

namespace Component

theorem step?_id (c : Component) : c.toJson.step? (.member "id") = some (.text c.id) := by
  rw [toJson]
  cases c.children <;> rfl

theorem step?_type (c : Component) : c.toJson.step? (.member "type") = some (.text c.type) := by
  rw [toJson]
  cases c.children <;> rfl

theorem step?_children {c : Component} {spec : Children} (set : c.children = some spec) :
    c.toJson.step? (.member "children") = some spec.toJson := by
  rw [toJson, set]
  rfl

end Component

namespace Entry

theorem step?_valueMap {e : Entry} (inside : e.nested ≠ []) :
    e.toJson.step? (.member "valueMap") = some (.array (listToJson e.nested)) := by
  obtain ⟨k, t, n, b, m, l⟩ := e
  cases m with
  | absent => exact absurd rfl inside
  | object fields => exact absurd rfl inside
  | entries es =>
    cases l <;> cases b <;>
      simp [toJson, mapToMember, Json.step?, Json.get?, Members.find?, nested]

theorem listToJson_eq_map (es : List Entry) : listToJson es = es.map toJson := by
  induction es with
  | nil => rfl
  | cons e rest ih => rw [listToJson, ih, List.map_cons]

theorem step?_listToJson {es : List Entry} {i : Nat} {e : Entry} (there : es[i]? = some e) :
    (Json.array (listToJson es)).step? (.item i) = some e.toJson := by
  rw [listToJson_eq_map, Json.step?, Json.item?, List.getElem?_map, there]
  rfl

theorem follow?_below {e found : Entry} {positions : List Nat}
    (reached : e.descend? positions = some found) :
    e.toJson.follow? (Address.below positions) = some found.toJson := by
  induction positions generalizing e with
  | nil =>
    obtain rfl : e = found := Option.some.inj reached
    rfl
  | cons i positions ih =>
    obtain ⟨inner, there, onward⟩ := Option.bind_eq_some_iff.mp reached
    have inside : e.nested ≠ [] := by
      intro none
      rw [none] at there
      cases there
    rw [Address.below, List.flatMap_cons, List.cons_append, List.cons_append, List.nil_append,
      Json.follow?_cons (step?_valueMap inside),
      Json.follow?_cons (step?_listToJson there)]
    exact ih onward

end Entry

namespace Message

/-- The member of a case in the document of a message that has the case. -/
theorem step?_begin {m : Message} {b : BeginRendering} (present : m.beginRendering = some b) :
    m.toJson.step? (.member "beginRendering") = some b.toJson :=
  (m.find?_written "beginRendering").trans (by simp [present])

theorem step?_update {m : Message} {u : SurfaceUpdate} (present : m.surfaceUpdate = some u) :
    m.toJson.step? (.member "surfaceUpdate") = some u.toJson :=
  (m.find?_written "surfaceUpdate").trans (by simp [present])

theorem step?_model {m : Message} {u : DataModelUpdate} (present : m.dataModelUpdate = some u) :
    m.toJson.step? (.member "dataModelUpdate") = some u.toJson :=
  (m.find?_written "dataModelUpdate").trans (by simp [present])

theorem step?_delete {m : Message} {d : DeleteSurface} (present : m.deleteSurface = some d) :
    m.toJson.step? (.member "deleteSurface") = some d.toJson :=
  (m.find?_written "deleteSurface").trans (by simp [present])

theorem at?_ofComponent {m : Message} {i : Nat} {c : Component} (there : m.component? i = some c)
    (field : List Json.Step) :
    m.toJson.at? (.ofComponent i field) = c.toJson.follow? field := by
  obtain ⟨u, present, found⟩ := Option.bind_eq_some_iff.mp there
  have item : (Json.array (u.components.map Component.toJson)).step? (.item i) =
      some c.toJson := by
    rw [Json.step?, Json.item?, List.getElem?_map, found]
    rfl
  have components : u.toJson.step? (.member "components") =
      some (.array (u.components.map Component.toJson)) := rfl
  rw [Json.at?, Address.ofComponent, Json.follow?_cons (step?_update present),
    Json.follow?_cons components, Json.follow?_cons item]

theorem at?_template {m : Message} {i : Nat} {binding id : String}
    (there : m.template? i = some (binding, id)) (field : List Json.Step) :
    m.toJson.at? (.ofComponent i (.member "children" :: field)) =
      (Children.repeated binding id).toJson.follow? field := by
  obtain ⟨c, found, set⟩ := template?_eq_some.mp there
  rw [at?_ofComponent found, Json.follow?_cons (Component.step?_children set)]

/-- The address of a place leads to the text that stands there. -/
theorem at?_ofPlace {m : Message} {place : Place} {text : String}
    (there : m.textAt? place = some text) :
    m.toJson.at? (.ofPlace place) = some (.text text) := by
  cases place with
  | beginSurface =>
    obtain ⟨b, present, rfl⟩ := Option.map_eq_some_iff.mp there
    rw [Json.at?, Address.ofPlace, Json.follow?_cons (step?_begin present)]
    cases styled : b.styles <;> simp [BeginRendering.toJson, styled] <;> rfl
  | beginRoot =>
    obtain ⟨b, present, rfl⟩ := Option.map_eq_some_iff.mp there
    rw [Json.at?, Address.ofPlace, Json.follow?_cons (step?_begin present)]
    rfl
  | updateSurface =>
    obtain ⟨u, present, rfl⟩ := Option.map_eq_some_iff.mp there
    rw [Json.at?, Address.ofPlace, Json.follow?_cons (step?_update present)]
    rfl
  | componentId i =>
    obtain ⟨c, found, rfl⟩ := Option.map_eq_some_iff.mp there
    rw [Address.ofPlace, at?_ofComponent found, Json.follow?_cons (Component.step?_id c)]
    rfl
  | componentType i =>
    obtain ⟨c, found, rfl⟩ := Option.map_eq_some_iff.mp there
    rw [Address.ofPlace, at?_ofComponent found, Json.follow?_cons (Component.step?_type c)]
    rfl
  | templateBinding i =>
    obtain ⟨⟨binding, id⟩, found, rfl⟩ := Option.map_eq_some_iff.mp there
    rw [Address.ofPlace, at?_template found]
    rfl
  | templateComponent i =>
    obtain ⟨⟨binding, id⟩, found, rfl⟩ := Option.map_eq_some_iff.mp there
    rw [Address.ofPlace, at?_template found]
    rfl
  | modelSurface =>
    obtain ⟨u, present, rfl⟩ := Option.map_eq_some_iff.mp there
    rw [Json.at?, Address.ofPlace, Json.follow?_cons (step?_model present)]
    cases placed : u.path <;> simp [DataModelUpdate.toJson, placed] <;> rfl
  | deleteSurface =>
    obtain ⟨d, present, rfl⟩ := Option.map_eq_some_iff.mp there
    rw [Json.at?, Address.ofPlace, Json.follow?_cons (step?_delete present)]
    rfl
  | actionSurface => cases there

/-- The address of an entry leads to what the entry is written as. -/
theorem at?_ofEntry {m : Message} {path : List Nat} {e : Entry}
    (there : m.entryAt? path = some e) : m.toJson.at? (.ofEntry path) = some e.toJson := by
  cases path with
  | nil => cases there
  | cons i nested =>
    obtain ⟨u, present, found⟩ := Option.bind_eq_some_iff.mp there
    obtain ⟨top, atTop, reached⟩ := Option.bind_eq_some_iff.mp found
    have contents : u.toJson.step? (.member "contents") =
        some (.array (Entry.listToJson u.contents)) := rfl
    rw [Json.at?, Address.ofEntry, Json.follow?_cons (step?_model present),
      Json.follow?_cons contents, Json.follow?_cons (Entry.step?_listToJson atTop)]
    exact Entry.follow?_below reached

end Message

end RemoteSurface
