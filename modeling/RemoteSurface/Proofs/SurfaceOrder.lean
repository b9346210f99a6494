import RemoteSurface.Proofs.MessageReduction
import RemoteSurface.Proofs.SessionReplay
/-!
Surfaces in order. Whatever comes through the check of messages fills in the texts that it must, and
a message that does so leaves every surface under its own id, every component under its own id, and
no required text blank.
-/
namespace RemoteSurface

/-- A component with its required texts filled in. -/
structure Component.Filled (c : Component) : Prop where
  id : Text.isBlank c.id = false
  type : Text.isBlank c.type = false
  repeated : ∀ binding id, c.children = some (.repeated binding id) →
    Text.isBlank binding = false ∧ Text.isBlank id = false

namespace ValidMessage

/-- A message with its required texts filled in. -/
def Filled : ValidMessage → Prop
  | .beginRendering b => Text.isBlank b.surfaceId = false ∧ Text.isBlank b.root = false
  | .surfaceUpdate u => Text.isBlank u.surfaceId = false ∧ ∀ c ∈ u.components, c.Filled
  | .dataModelUpdate u => Text.isBlank u.surfaceId = false
  | .deleteSurface d => Text.isBlank d.surfaceId = false
  | .unknown _ => True

/-- A text that a message without defects must have is not blank. -/
theorem filled_of_clean {m : Message} (clean : ∀ v, ¬ m.Defect v) {place : Place} {text : String}
    (required : m.textAt? place = some text) : Text.isBlank text = false := by
  cases blank : Text.isBlank text with
  | false => rfl
  | true => exact absurd (.blank required blank) (clean _)

theorem component_filled_of_clean {m : Message} (clean : ∀ v, ¬ m.Defect v) {i : Nat}
    {c : Component} (found : m.component? i = some c) : c.Filled := by
  have id : m.textAt? (.componentId i) = some c.id := by rw [Message.textAt?, found]; rfl
  have type : m.textAt? (.componentType i) = some c.type := by rw [Message.textAt?, found]; rfl
  refine ⟨filled_of_clean clean id, filled_of_clean clean type, ?_⟩
  intro binding repeated children
  have template := Message.template?_eq_some.mpr ⟨c, found, children⟩
  have first : m.textAt? (.templateBinding i) = some binding := by
    rw [Message.textAt?, template]
    rfl
  have second : m.textAt? (.templateComponent i) = some repeated := by
    rw [Message.textAt?, template]
    rfl
  exact ⟨filled_of_clean clean first, filled_of_clean clean second⟩

theorem ofMessage_filled {m : Message} {valid : ValidMessage}
    (reduced : ofMessage m = .ok valid) : valid.Filled := by
  have clean := (ofMessage_eq_ok reduced).1
  have content := ofMessage_isCaseOf reduced
  cases valid with
  | beginRendering b =>
    have present : m.beginRendering = some b := content
    have id : m.textAt? .beginSurface = some b.surfaceId := by rw [Message.textAt?, present]; rfl
    have root : m.textAt? .beginRoot = some b.root := by rw [Message.textAt?, present]; rfl
    exact ⟨filled_of_clean clean id, filled_of_clean clean root⟩
  | surfaceUpdate u =>
    have present : m.surfaceUpdate = some u := content
    have id : m.textAt? .updateSurface = some u.surfaceId := by rw [Message.textAt?, present]; rfl
    refine ⟨filled_of_clean clean id, ?_⟩
    intro c member
    obtain ⟨i, found⟩ := List.mem_iff_getElem?.mp member
    have atIndex : m.component? i = some c := by
      rw [Message.component?, present]
      exact found
    exact component_filled_of_clean clean atIndex
  | dataModelUpdate u =>
    have present : m.dataModelUpdate = some u := content
    have id : m.textAt? .modelSurface = some u.surfaceId := by rw [Message.textAt?, present]; rfl
    exact filled_of_clean clean id
  | deleteSurface d =>
    have present : m.deleteSurface = some d := content
    have id : m.textAt? .deleteSurface = some d.surfaceId := by rw [Message.textAt?, present]; rfl
    exact filled_of_clean clean id
  | unknown case => trivial

theorem ofPayload?_filled {payload : String} {valid : ValidMessage}
    (read : ofPayload? payload = some valid) : valid.Filled := by
  obtain ⟨m, -, reduced⟩ := Option.bind_eq_some_iff.mp read
  cases answer : ofMessage m with
  | error found =>
    rw [answer] at reduced
    cases reduced
  | ok valid' =>
    rw [answer] at reduced
    cases reduced
    exact ofMessage_filled answer

end ValidMessage

/-- A surface in order under an id: the id is its own, its components stand under theirs, and no
required text is blank. -/
structure Surface.InOrder (id : String) (s : Surface) : Prop where
  ownId : s.id = id
  idFilled : Text.isBlank s.id = false
  rootFilled : Text.isBlank s.root = false
  componentIds : ∀ key c, s.component? key = some c → c.id = key
  componentsFilled : ∀ key c, s.component? key = some c → c.Filled

namespace Surface

variable {id : String}

theorem InOrder.start {b : BeginRendering} (filled : (ValidMessage.beginRendering b).Filled) :
    (Surface.start b).InOrder b.surfaceId := by
  have nothing : ∀ key, (Surface.start b).component? key = none := fun key => rfl
  refine ⟨rfl, filled.1, filled.2, ?_, ?_⟩
  · intro key c found
    rw [nothing key] at found
    cases found
  · intro key c found
    rw [nothing key] at found
    cases found

theorem component?_withComponent (s : Surface) (c : Component) (key : String) :
    (s.withComponent c).component? key = if key = c.id then some c else s.component? key :=
  Table.find?_put s.components c.id key c

theorem InOrder.withComponent {s : Surface} (ordered : s.InOrder id) {c : Component}
    (filled : c.Filled) : (s.withComponent c).InOrder id := by
  refine ⟨ordered.ownId, ordered.idFilled, ordered.rootFilled, ?_, ?_⟩
  · intro key d found
    rw [component?_withComponent] at found
    split at found
    next own =>
      cases found
      exact own.symm
    next => exact ordered.componentIds key d found
  · intro key d found
    rw [component?_withComponent] at found
    split at found
    next =>
      cases found
      exact filled
    next => exact ordered.componentsFilled key d found

theorem InOrder.withComponents {s : Surface} (ordered : s.InOrder id) {cs : List Component}
    (filled : ∀ c ∈ cs, c.Filled) : (s.withComponents cs).InOrder id := by
  induction cs generalizing s with
  | nil => exact ordered
  | cons c cs ih =>
    have first := ordered.withComponent (filled c List.mem_cons_self)
    exact ih first fun d member => filled d (List.mem_cons_of_mem c member)

theorem InOrder.holding {s : Surface} (ordered : s.InOrder id) (data : DataModel) :
    { s with dataModel := data }.InOrder id :=
  ⟨ordered.ownId, ordered.idFilled, ordered.rootFilled, ordered.componentIds,
    ordered.componentsFilled⟩

theorem InOrder.withData {s : Surface} (ordered : s.InOrder id) (u : DataModelUpdate) :
    (s.withData u).InOrder id := by
  rw [Surface.withData]
  exact ordered.holding _

end Surface

/-- Whatever a filled message makes of a surface in order is in order. -/
theorem ValidMessage.Filled.actOn {m : ValidMessage} (filled : m.Filled) {id : String}
    (aimed : m.addresses id = true) {slot : Option Surface}
    (ordered : ∀ s, slot = some s → s.InOrder id) :
    ∀ s, m.actOn slot = some s → s.InOrder id := by
  intro s made
  cases m with
  | beginRendering b =>
    obtain rfl := (addresses_iff (m := .beginRendering b) rfl).mp aimed
    obtain rfl : Surface.start b = s := Option.some.inj made
    exact .start filled
  | surfaceUpdate u =>
    obtain ⟨before, live, rfl⟩ := Option.map_eq_some_iff.mp made
    exact (ordered before live).withComponents filled.2
  | dataModelUpdate u =>
    obtain ⟨before, live, rfl⟩ := Option.map_eq_some_iff.mp made
    exact (ordered before live).withData u
  | deleteSurface d => cases made
  | unknown case => exact ordered s made

namespace Snapshot

/-- A snapshot whose surfaces are all in order under the ids that they stand under. -/
def InOrder (s : Snapshot) : Prop := s.Everywhere Surface.InOrder

theorem empty_inOrder : empty.InOrder := empty_everywhere Surface.InOrder

theorem InOrder.reduce {s : Snapshot} (ordered : s.InOrder) (stamp : Nat) {m : ValidMessage}
    (filled : m.Filled) : (s.reduce stamp m).InOrder := by
  apply Everywhere.reduce ordered
  intro id surface aimed made
  exact filled.actOn aimed (ordered id) surface made

theorem InOrder.replay {s : Snapshot} (ordered : s.InOrder) {ms : List Stamped}
    (filled : ∀ m ∈ ms, m.2.Filled) : (s.replay ms).InOrder := by
  induction ms generalizing s with
  | nil => exact ordered
  | cons m ms ih =>
    have first := ordered.reduce m.1 (filled m List.mem_cons_self)
    exact ih first fun n member => filled n (List.mem_cons_of_mem m member)

theorem mem_stampedFrom {stamp : Nat} {ms : List ValidMessage} {m : Stamped}
    (member : m ∈ stampedFrom stamp ms) : m.2 ∈ ms := by
  induction ms generalizing stamp with
  | nil => cases member
  | cons first rest ih =>
    rcases List.mem_cons.mp member with rfl | later
    · exact List.mem_cons_self
    · exact List.mem_cons_of_mem first (ih later)

/-- Messages that were read from payloads keep a snapshot in order. -/
theorem InOrder.replay_read {s : Snapshot} (ordered : s.InOrder) (stamp : Nat)
    (payloads : List String) :
    (s.replay (stampedFrom stamp (payloads.filterMap ValidMessage.ofPayload?))).InOrder := by
  apply ordered.replay
  intro m member
  obtain ⟨payload, -, read⟩ := List.mem_filterMap.mp (mem_stampedFrom member)
  exact ValidMessage.ofPayload?_filled read

/-- The snapshot that payloads lead to from the empty one. A payload that is no well-formed message
leads nowhere. -/
def ofPayloads (payloads : List String) : Snapshot :=
  empty.replay (stampedFrom 0 (payloads.filterMap ValidMessage.ofPayload?))

/-- Whatever payloads came, every surface stands under its own id and every component under its own,
and surface ids, roots, component ids, component types and both texts of repeated children are
filled in. -/
theorem ofPayloads_in_order (payloads : List String) :
    (∀ id surface, (ofPayloads payloads).surface? id = some surface →
      surface.id = id ∧ Text.isBlank id = false ∧ Text.isBlank surface.root = false) ∧
    (∀ id surface key c, (ofPayloads payloads).surface? id = some surface →
      surface.component? key = some c →
      c.id = key ∧ Text.isBlank key = false ∧ Text.isBlank c.type = false) ∧
    (∀ id surface key c binding repeated, (ofPayloads payloads).surface? id = some surface →
      surface.component? key = some c → c.children = some (.repeated binding repeated) →
      Text.isBlank binding = false ∧ Text.isBlank repeated = false) := by
  have ordered : (ofPayloads payloads).InOrder := empty_inOrder.replay_read 0 payloads
  refine ⟨?_, ?_, ?_⟩
  · intro id surface live
    have own := (ordered id surface live).ownId
    exact ⟨own, own ▸ (ordered id surface live).idFilled, (ordered id surface live).rootFilled⟩
  · intro id surface key c live stands
    have own := (ordered id surface live).componentIds key c stands
    have filled := (ordered id surface live).componentsFilled key c stands
    exact ⟨own, own ▸ filled.id, filled.type⟩
  · intro id surface key c binding repeated live stands children
    exact ((ordered id surface live).componentsFilled key c stands).repeated _ _ children

end Snapshot

/-- What readers of a session see is in order at every moment of its histories. -/
theorem Session.snapshot_inOrder {s : Session} {receipts : List Bool}
    {attempts : List Connection} {history past : List Moment}
    (possible : s.MayRun receipts attempts history) (started : past <+: history) :
    (Moment.snapshot past).InOrder := by
  rw [snapshot_history possible started]
  exact Snapshot.empty_inOrder.replay_read 0 (Moment.payloads past)

end RemoteSurface
