import RemoteSurface.Message
import RemoteSurface.Proofs.TableLaws
/-!
Records read back from the JSON values that they are written as. A field that is left out when it is
at its default is filled with that default, a list of entries is not taken for an object nor an
object for a list, and of a map the keys ascend already. A number that is not finite is written as
null and does not come back, so every record is read back as far as its numbers are finite.
-/
namespace RemoteSurface

namespace Value

mutual

/-- Whether every number of a value, at any depth, is finite. -/
def IsFinite : Value → Prop
  | .null => True
  | .bool _ => True
  | .number x => x.isFinite = true
  | .text _ => True
  | .list items => ItemsFinite items
  | .map members => MembersFinite members

def ItemsFinite : List Value → Prop
  | [] => True
  | v :: rest => IsFinite v ∧ ItemsFinite rest

def MembersFinite : List (String × Value) → Prop
  | [] => True
  | (_, v) :: rest => IsFinite v ∧ MembersFinite rest

end

theorem itemsFinite_iff {items : List Value} : ItemsFinite items ↔ ∀ v ∈ items, v.IsFinite := by
  induction items with
  | nil => simp [ItemsFinite]
  | cons v rest ih => rw [ItemsFinite, ih, List.forall_mem_cons]

theorem membersFinite_iff {ms : Members Value} : MembersFinite ms ↔ ∀ m ∈ ms, m.2.IsFinite := by
  induction ms with
  | nil => simp [MembersFinite]
  | cons m rest ih => rw [MembersFinite, ih, List.forall_mem_cons]

mutual

theorem ofJson_toJson : (v : Value) → v.IsFinite → ofJson (toJson v) = v
  | .null, _ => rfl
  | .bool _, _ => rfl
  | .number x, finite => by
    rw [toJson, Json.ofDouble_of_finite finite]
    rfl
  | .text _, _ => rfl
  | .list items, finite => by simp only [toJson, ofJson, ofItems_toItems items finite]
  | .map members, finite => by simp only [toJson, ofJson, ofMembers_toMembers members finite]

theorem ofItems_toItems : (items : List Value) → ItemsFinite items →
    ofItems (toItems items) = items
  | [], _ => rfl
  | v :: rest, finite => by
    simp only [toItems, ofItems, ofJson_toJson v finite.1, ofItems_toItems rest finite.2]

theorem ofMembers_toMembers : (ms : List (String × Value)) → MembersFinite ms →
    ofMembers (toMembers ms) = ms
  | [], _ => rfl
  | (k, v) :: rest, finite => by
    simp only [toMembers, ofMembers, ofJson_toJson v finite.1, ofMembers_toMembers rest finite.2]

end

theorem read_toJson {v : Value} (finite : v.IsFinite) : read v.toJson = .ok v :=
  congrArg Except.ok (v.ofJson_toJson finite)

theorem toItems_eq_map (items : List Value) : toItems items = items.map toJson := by
  induction items with
  | nil => rfl
  | cons v rest ih => rw [toItems, ih, List.map_cons]

theorem toMembers_eq_mapValues (ms : Members Value) : toMembers ms = ms.mapValues toJson := by
  induction ms with
  | nil => rfl
  | cons m rest ih =>
    rw [toMembers, ih]
    rfl

theorem ofMembers_eq_mapValues (ms : Members Json) : ofMembers ms = ms.mapValues ofJson := by
  induction ms with
  | nil => rfl
  | cons m rest ih =>
    rw [ofMembers, ih]
    rfl

end Value

namespace Json

universe u v

variable {α : Type u} {β : Type v} {read : Json → Reading α} {write : α → Json}

theorem map_eq_ok_iff {r : Reading α} {f : α → β} {b : β} :
    r.map f = .ok b ↔ ∃ a, r = .ok a ∧ f a = b := by
  cases r <;> simp [Except.map]

theorem bind_eq_ok_iff {r : Reading α} {f : α → Reading β} {b : β} :
    r.bind f = .ok b ↔ ∃ a, r = .ok a ∧ f a = .ok b := by
  cases r <;> simp [Except.bind]

theorem readText_text (s : String) : readText (.text s) = .ok s := rfl

theorem readDouble_ofDouble {x : Double} (finite : x.isFinite = true) :
    readDouble (ofDouble x) = .ok x := by
  rw [ofDouble_of_finite finite]
  rfl

theorem mapM_read_map {as : List α} (back : ∀ a ∈ as, read (write a) = .ok a) :
    (as.map write).mapM read = .ok as := by
  induction as with
  | nil => rfl
  | cons a as ih =>
    obtain ⟨first, others⟩ := List.forall_mem_cons.mp back
    rw [List.map_cons, List.mapM_cons, first, ih others]
    rfl

theorem readList_array {as : List α} (back : ∀ a ∈ as, read (write a) = .ok a) :
    readList read (.array (as.map write)) = .ok as :=
  mapM_read_map back

theorem readMembers_mapValues {ms : Members α} (back : ∀ m ∈ ms, read (write m.2) = .ok m.2)
    (t : Table α) : readMembers read (ms.mapValues write) t = .ok (t.putAll ms) := by
  induction ms generalizing t with
  | nil => rfl
  | cons m rest ih =>
    obtain ⟨first, others⟩ := List.forall_mem_cons.mp back
    rw [Members.mapValues, List.map_cons, readMembers, first]
    exact ih others (t.put m.1 m.2)

theorem readTable_object {t : Table α} (back : ∀ m ∈ t.members, read (write m.2) = .ok m.2) :
    readTable read (.object (t.members.mapValues write)) = .ok t := by
  rw [readTable, readMembers_mapValues back]
  exact congrArg Except.ok t.ofList_members

theorem readOptional_of_ne_null {v : Json} (solid : v ≠ .null) (read : Json → Reading α) :
    readOptional read v = (read v).map some := by
  cases v with
  | null => exact absurd rfl solid
  | _ => rfl

theorem readOptional_write {a : α} (back : read (write a) = .ok a) (solid : write a ≠ .null) :
    readOptional read (write a) = .ok (some a) := by
  rw [readOptional_of_ne_null solid, back]
  rfl

theorem readOptional_ofDouble {x : Double} (finite : x.isFinite = true) :
    readOptional readDouble (ofDouble x) = .ok (some x) := by
  apply readOptional_write (readDouble_ofDouble finite)
  simp [ofDouble_of_finite finite]

theorem fillMembers_append_of_ok {set : String → Json → α → Reading α} {ms : Members Json}
    {a b : α} (filled : fillMembers set ms a = .ok b) (ns : Members Json) :
    fillMembers set (ms ++ ns) a = fillMembers set ns b := by
  induction ms generalizing a with
  | nil =>
    cases filled
    rfl
  | cons m rest ih =>
    obtain ⟨c, first, others⟩ := bind_eq_ok_iff.mp filled
    rw [List.cons_append, fillMembers, first]
    exact ih others

/-- What every field keeps, filled with values of some kind, a record filled with such values
keeps. -/
theorem fillMembers_preserves {Q : Json → Prop} {P : α → Prop}
    {set : String → Json → α → Reading α}
    (keeps : ∀ {k v a b}, Q v → P a → set k v a = .ok b → P b) {ms : Members Json}
    (values : ∀ m ∈ ms, Q m.2) {a b : α} (before : P a) (filled : fillMembers set ms a = .ok b) :
    P b := by
  induction ms generalizing a with
  | nil =>
    cases filled
    exact before
  | cons m rest ih =>
    obtain ⟨here, later⟩ := List.forall_mem_cons.mp values
    obtain ⟨c, first, filled⟩ := bind_eq_ok_iff.mp filled
    exact ih later (keeps here before first) filled

theorem fillItems_preserves {Q : Json → Prop} {P : α → Prop} {set : String → Json → α → Reading α}
    (keeps : ∀ {k v a b}, Q v → P a → set k v a = .ok b → P b) {fields : List String}
    {items : List Json} (values : ∀ v ∈ items, Q v) {a b : α} (before : P a)
    (filled : fillItems set fields items a = .ok b) : P b := by
  induction items generalizing fields a with
  | nil =>
    cases fields <;> cases filled <;> exact before
  | cons v rest ih =>
    obtain ⟨here, later⟩ := List.forall_mem_cons.mp values
    cases fields with
    | nil =>
      cases filled
      exact before
    | cons k ks =>
      obtain ⟨c, first, filled⟩ := bind_eq_ok_iff.mp filled
      exact ih later (keeps here before first) filled

theorem readRecord_preserves {P : α → Prop} {name : String} {fields : List String}
    {set : String → Json → α → Reading α}
    (keeps : ∀ {k v a b}, P a → set k v a = .ok b → P b) {start : α} (before : P start) {v : Json}
    {a : α} (read : readRecord name fields set start v = .ok a) : P a := by
  have each {k v a b} (_ : True) : P a → set k v a = .ok b → P b := keeps
  cases v with
  | object ms => exact fillMembers_preserves each (fun _ _ => trivial) before read
  | array items =>
    obtain ⟨b, filled, same⟩ := bind_eq_ok_iff.mp read
    have kept := fillItems_preserves each (fun _ _ => trivial) before filled
    split at same
    · cases same
    · cases same
      exact kept
  | _ => cases read

/-- A member that is written when something is there fills its field with what is there. -/
theorem fillMembers_caseMember {γ : Type} {set : String → Json → α → Reading α} {k : String}
    {write : γ → Json} {f : Option γ → α} {c : Option γ}
    (present : ∀ x, c = some x → set k (write x) (f none) = .ok (f (some x))) :
    fillMembers set (Message.caseMember k write c) (f none) = .ok (f c) := by
  cases c with
  | none => rfl
  | some x => simp [Message.caseMember, fillMembers, present x rfl, Except.bind]

end Json

def DataModel.IsFinite (m : DataModel) : Prop := Value.MembersFinite m.members

theorem DataModel.read_toJson {m : DataModel} (finite : m.IsFinite) :
    DataModel.read m.toJson = .ok m := by
  rw [DataModel.toJson, Value.toMembers_eq_mapValues]
  exact Json.readTable_object fun o member =>
    Value.read_toJson (Value.membersFinite_iff.mp finite o member)

namespace Children

theorem read_toJson (c : Children) : Children.read c.toJson = .ok c := by
  cases c with
  | listed ids =>
    have texts : Json.readList Json.readText (.array (ids.map .text)) = .ok ids :=
      Json.readList_array fun s _ => Json.readText_text s
    rw [toJson, read, texts]
    rfl
  | repeated binding id => rfl

theorem toJson_ne_null (c : Children) : c.toJson ≠ .null := by
  cases c <;> simp [toJson]

end Children

namespace Component

structure IsFinite (c : Component) : Prop where
  props : c.props.IsFinite
  weight : ∀ x, c.weight = some x → x.isFinite = true

open Message in
theorem toJson_eq (c : Component) : c.toJson = .object
    (caseMember "children" Children.toJson c.children ++
      ([("id", .text c.id), ("props", c.props.toJson), ("type", .text c.type)] ++
        caseMember "weight" .ofDouble c.weight)) := by
  obtain ⟨id, type, props, weight, children⟩ := c
  cases weight <;> cases children <;> rfl

theorem read_toJson {c : Component} (finite : c.IsFinite) : read c.toJson = .ok c := by
  obtain ⟨id, type, props, weight, children⟩ := c
  have before : Json.fillMembers setField
      (Message.caseMember "children" Children.toJson children) {} = .ok { children := children } := by
    apply Json.fillMembers_caseMember (f := fun c => ({ children := c } : Component))
    intro spec _
    have solid := Json.readOptional_write spec.read_toJson spec.toJson_ne_null
    simp [setField, solid, Except.map]
  have between : Json.fillMembers setField
      [("id", .text id), ("props", props.toJson), ("type", .text type)] { children := children } =
      .ok { id := id, type := type, props := props, children := children } := by
    have kept := props.ofJson_toJson finite.props
    simp [Json.fillMembers, setField, Json.readText, kept, Except.map, Except.bind]
  have behind : Json.fillMembers setField (Message.caseMember "weight" .ofDouble weight)
      { id := id, type := type, props := props, children := children } =
      .ok { id := id, type := type, props := props, weight := weight, children := children } := by
    apply Json.fillMembers_caseMember
      (f := fun w => ({ id, type, props, weight := w, children } : Component))
    intro x known
    have solid := Json.readOptional_ofDouble (finite.weight x known)
    simp [setField, solid, Except.map]
  rw [toJson_eq, read, Json.readRecord, Json.fillMembers_append_of_ok before,
    Json.fillMembers_append_of_ok between, behind]

end Component

namespace Entry

mutual

/-- Whether every number of an entry is finite, those of the entries nested in it included. -/
def IsFinite : Entry → Prop
  | .mk _ _ n _ m l =>
    (∀ x, n = some x → x.isFinite = true) ∧ MapFinite m ∧
      ∀ xs, l = some xs → Value.ItemsFinite xs

def MapFinite : EntryMap → Prop
  | .absent => True
  | .entries nested => ListFinite nested
  | .object fields => Value.MembersFinite fields.members

def ListFinite : List Entry → Prop
  | [] => True
  | e :: rest => IsFinite e ∧ ListFinite rest

end

/-- Sets the field of a key of an entry. -/
def setField (k : String) (v : Json) (e : Entry) : Json.Reading Entry :=
  if k = "valueMap" then (readMap v).map fun m => setMap m e else setPlain k v e

theorem readMembers_eq_fillMembers (ms : Members Json) (e : Entry) :
    readMembers ms e = Json.fillMembers setField ms e := by
  induction ms generalizing e with
  | nil => rw [readMembers, Json.fillMembers]
  | cons m rest ih =>
    obtain ⟨k, v⟩ := m
    by_cases nests : k = "valueMap"
    · subst nests
      rw [readMembers, Json.fillMembers, setField, if_pos rfl]
      cases readMap v with
      | error failure => rfl
      | ok m => exact ih (setMap m e)
    · rw [Json.fillMembers, setField, if_neg nests, readMembers]
      · exact congrArg _ (funext ih)
      · exact nests

open Message in
theorem toJson_eq (key : String) (t : Option String) (n : Option Double) (b : Option Bool)
    (m : EntryMap) (l : Option (List Value)) :
    toJson (.mk key t n b m l) = .object (("key", .text key) ::
      (caseMember "valueArray" (fun xs => .array (Value.toItems xs)) l ++
        (caseMember "valueBoolean" .bool b ++ (mapToMember m ++
          (caseMember "valueNumber" .ofDouble n ++
            caseMember "valueString" .text t))))) := by
  cases l <;> cases b <;> cases n <;> cases t <;> simp [toJson, caseMember]

theorem read_toJson_of_map {m : EntryMap}
    (map : ∀ k b l, Json.fillMembers setField (mapToMember m) (.mk k none none b .absent l) =
      .ok (.mk k none none b m l))
    {key : String} {t : Option String} {n : Option Double} {b : Option Bool}
    {l : Option (List Value)} (finite : IsFinite (.mk key t n b m l)) :
    read (toJson (.mk key t n b m l)) = .ok (.mk key t n b m l) := by
  rw [IsFinite] at finite
  obtain ⟨finiteNumber, -, finiteItems⟩ := finite
  have array : Json.fillMembers setField
      (Message.caseMember "valueArray" (fun xs => .array (Value.toItems xs)) l)
      (.mk key none none none .absent none) = .ok (.mk key none none none .absent l) := by
    apply Json.fillMembers_caseMember (f := Entry.mk key none none none .absent)
    intro xs known
    have items := Json.readList_array fun v member =>
      Value.read_toJson (Value.itemsFinite_iff.mp (finiteItems xs known) v member)
    simp [setField, setPlain, Json.readOptional, Value.toItems_eq_map, items, Except.map]
  have boolean : Json.fillMembers setField (Message.caseMember "valueBoolean" .bool b)
      (.mk key none none none .absent l) = .ok (.mk key none none b .absent l) := by
    apply Json.fillMembers_caseMember (f := fun b => Entry.mk key none none b .absent l)
    intro x _
    simp [setField, setPlain, Json.readOptional, Json.readBool, Except.map]
  have number : Json.fillMembers setField (Message.caseMember "valueNumber" .ofDouble n)
      (.mk key none none b m l) = .ok (.mk key none n b m l) := by
    apply Json.fillMembers_caseMember (f := fun n => Entry.mk key none n b m l)
    intro x known
    have solid := Json.readOptional_ofDouble (finiteNumber x known)
    simp [setField, setPlain, solid, Except.map]
  have text : Json.fillMembers setField (Message.caseMember "valueString" .text t)
      (.mk key none n b m l) = .ok (.mk key t n b m l) := by
    apply Json.fillMembers_caseMember (f := fun t => Entry.mk key t n b m l)
    intro x _
    simp [setField, setPlain, Json.readOptional, Json.readText, Except.map]
  have named : setField "key" (.text key) blank = .ok (.mk key none none none .absent none) := by
    simp [setField, setPlain, blank, Json.readText, Except.map]
  rw [toJson_eq, read, readMembers_eq_fillMembers, Json.fillMembers, named, Except.bind,
    Json.fillMembers_append_of_ok array, Json.fillMembers_append_of_ok boolean,
    Json.fillMembers_append_of_ok (map key b l), Json.fillMembers_append_of_ok number, text]

mutual

theorem read_toJson : (e : Entry) → e.IsFinite → read (toJson e) = .ok e
  | .mk _ _ _ _ m _, finite => by
    have inside := finite
    rw [IsFinite] at inside
    exact read_toJson_of_map (fillMembers_mapToMember m inside.2.1) finite

theorem fillMembers_mapToMember : (m : EntryMap) → MapFinite m → ∀ k b l,
    Json.fillMembers setField (mapToMember m) (.mk k none none b .absent l) =
      .ok (.mk k none none b m l)
  | .absent, _ => by
    intro k b l
    simp [mapToMember, Json.fillMembers]
  | .entries nested, finite => by
    intro k b l
    rw [MapFinite] at finite
    simp [mapToMember, Json.fillMembers, setField, readMap, readList_listToJson nested finite,
      setMap, Except.map, Except.bind]
  | .object fields, finite => by
    intro k b l
    rw [MapFinite] at finite
    have kept := Value.ofMembers_toMembers _ finite
    simp [mapToMember, Json.fillMembers, setField, readMap, DataModel.toJson, kept,
      Table.ofList_members, setMap, Except.map, Except.bind]

theorem readList_listToJson : (es : List Entry) → ListFinite es →
    readList (listToJson es) = .ok es
  | [], _ => by rw [listToJson, readList]
  | e :: rest, finite => by
    rw [ListFinite] at finite
    rw [listToJson, readList, read_toJson e finite.1, readList_listToJson rest finite.2]
    rfl

end

end Entry

namespace BeginRendering

def IsFinite (b : BeginRendering) : Prop :=
  ∀ t, b.styles = some t → ∀ m ∈ t.members, DataModel.IsFinite m.2

theorem read_toJson {b : BeginRendering} (finite : b.IsFinite) : read b.toJson = .ok b := by
  obtain ⟨surfaceId, root, styles⟩ := b
  cases styles with
  | none => rfl
  | some t =>
    have tables := Json.readTable_object fun m member =>
      DataModel.read_toJson (finite t rfl m member)
    simp [read, toJson, Json.readRecord, Json.fillMembers, setField, Json.readText,
      Json.readOptional, tables, Except.map, Except.bind]

theorem toJson_ne_null (b : BeginRendering) : b.toJson ≠ .null := by
  simp [toJson]

end BeginRendering

namespace SurfaceUpdate

def IsFinite (u : SurfaceUpdate) : Prop := ∀ c ∈ u.components, c.IsFinite

theorem read_toJson {u : SurfaceUpdate} (finite : u.IsFinite) : read u.toJson = .ok u := by
  have components := Json.readList_array fun c member => Component.read_toJson (finite c member)
  simp [read, toJson, Json.readRecord, Json.fillMembers, setField, Json.readText, components,
    Except.map, Except.bind]

theorem toJson_ne_null (u : SurfaceUpdate) : u.toJson ≠ .null := by
  simp [toJson]

end SurfaceUpdate

namespace DataModelUpdate

def IsFinite (u : DataModelUpdate) : Prop := Entry.ListFinite u.contents

theorem read_toJson {u : DataModelUpdate} (finite : u.IsFinite) : read u.toJson = .ok u := by
  obtain ⟨surfaceId, path, contents⟩ := u
  have entries : Entry.readEntries (.array (Entry.listToJson contents)) = .ok contents :=
    Entry.readList_listToJson contents finite
  cases path <;>
    simp [read, toJson, Json.readRecord, Json.fillMembers, setField, Json.readText,
      Json.readOptional, entries, Except.map, Except.bind]

theorem toJson_ne_null (u : DataModelUpdate) : u.toJson ≠ .null := by
  simp [toJson]

end DataModelUpdate

namespace DeleteSurface

theorem read_toJson (d : DeleteSurface) : read d.toJson = .ok d := rfl

theorem toJson_ne_null (d : DeleteSurface) : d.toJson ≠ .null := by
  simp [toJson]

end DeleteSurface

namespace Message

structure IsFinite (m : Message) : Prop where
  begins : ∀ b, m.beginRendering = some b → b.IsFinite
  updates : ∀ u, m.surfaceUpdate = some u → u.IsFinite
  models : ∀ u, m.dataModelUpdate = some u → u.IsFinite

/-- The members that a message writes for its cases. -/
def caseMembers (m : Message) : Members Json :=
  caseMember "beginRendering" BeginRendering.toJson m.beginRendering ++
  caseMember "surfaceUpdate" SurfaceUpdate.toJson m.surfaceUpdate ++
  caseMember "dataModelUpdate" DataModelUpdate.toJson m.dataModelUpdate ++
  caseMember "deleteSurface" DeleteSurface.toJson m.deleteSurface

theorem fillMembers_of_ofJson {ms : Members Json} {m : Message} (read : ofJson (.object ms) = .ok m) :
    Json.fillMembers setCase ms {} = .ok m := by
  change (Json.fillMembers setCase ms {}).mapError DecodeFailure.misfit = .ok m at read
  cases known : Json.fillMembers setCase ms {} with
  | error failure =>
    rw [known] at read
    cases read
  | ok n =>
    rw [known] at read
    cases read
    rfl

end Message

end RemoteSurface
