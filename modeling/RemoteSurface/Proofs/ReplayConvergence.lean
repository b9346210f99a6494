import RemoteSurface.Proofs.DataWrites
import RemoteSurface.Proofs.SurfaceHistory
/-!
Replays after a broken connection. A message that has acted once changes nothing when it acts
again, and surfaces that it makes equal stay equal under it whatever other message acts on them
first. So messages that come again later may as well not have acted before, and a stream that is
sent from its beginning after it broke leads where it would have led at once.
-/
namespace RemoteSurface

namespace Table

universe u

variable {α : Type u}

theorem putAll_putAll (t : Table α) (later : Members α) :
    (t.putAll later).putAll later = t.putAll later := by
  apply ext_find?
  intro k
  rw [find?_putAll, find?_putAll, ← Option.or_assoc, Option.or_self]

/-- Tables that some members make equal are made equal by them after any others too. -/
theorem putAll_forgives {s t : Table α} {later : Members α}
    (same : s.putAll later = t.putAll later) (others : Members α) :
    (s.putAll others).putAll later = (t.putAll others).putAll later := by
  apply ext_find?
  intro k
  have atKey : (s.putAll later).find? k = (t.putAll later).find? k := by rw [same]
  rw [find?_putAll, find?_putAll] at atKey
  rw [find?_putAll, find?_putAll, find?_putAll, find?_putAll]
  cases found : Members.find? k later.reverse with
  | some v => rfl
  | none =>
    rw [found, Option.none_or, Option.none_or] at atKey
    rw [atKey]

end Table

namespace Surface

/-- Components as members of a table, each under its id. -/
def componentMembers (cs : List Component) : Members Component := cs.map fun c => (c.id, c)

theorem withComponents_eq (s : Surface) (cs : List Component) :
    s.withComponents cs = { s with components := s.components.putAll (componentMembers cs) } := by
  induction cs generalizing s with
  | nil => rfl
  | cons c cs ih => exact ih (s.withComponent c)

theorem withComponents_again (s : Surface) (cs : List Component) :
    (s.withComponents cs).withComponents cs = s.withComponents cs := by
  simp only [withComponents_eq, Table.putAll_putAll]

theorem withComponents_forgives {s t : Surface} {cs : List Component}
    (same : s.withComponents cs = t.withComponents cs) (ds : List Component) :
    (s.withComponents ds).withComponents cs = (t.withComponents ds).withComponents cs := by
  simp only [withComponents_eq, Surface.mk.injEq] at same ⊢
  obtain ⟨ids, roots, components, models, styles⟩ := same
  exact ⟨ids, roots, Table.putAll_forgives components _, models, styles⟩

theorem withData_again (s : Surface) (u : DataModelUpdate) :
    (s.withData u).withData u = s.withData u := by
  simp only [withData, DataModel.replaceAt_swallows (List.prefix_refl _)]

theorem withData_forgives {s t : Surface} {u : DataModelUpdate}
    (same : s.withData u = t.withData u) (v : DataModelUpdate) :
    (s.withData v).withData u = (t.withData v).withData u := by
  simp only [withData, Surface.mk.injEq] at same ⊢
  obtain ⟨ids, roots, components, models, styles⟩ := same
  exact ⟨ids, roots, components, DataModel.replaceAt_forgives models _ _, styles⟩

/-- Components and data do not see one another. -/
theorem withData_withComponents (s : Surface) (u : DataModelUpdate) (cs : List Component) :
    (s.withData u).withComponents cs = (s.withComponents cs).withData u := by
  rw [withComponents_eq, withComponents_eq]
  rfl

end Surface

namespace ValidMessage

theorem actOn_again (m : ValidMessage) (slot : Option Surface) :
    m.actOn (m.actOn slot) = m.actOn slot := by
  cases m with
  | beginRendering b => rfl
  | deleteSurface d => rfl
  | unknown case => rfl
  | surfaceUpdate u =>
    cases slot with
    | none => rfl
    | some s => exact congrArg some (s.withComponents_again u.components)
  | dataModelUpdate u =>
    cases slot with
    | none => rfl
    | some s => exact congrArg some (s.withData_again u)

/-- Live surfaces that a message makes equal are made equal by it after any other message. -/
theorem actOn_forgives_live {m : ValidMessage} {s t : Surface}
    (same : m.actOn (some s) = m.actOn (some t)) (n : ValidMessage) :
    m.actOn (n.actOn (some s)) = m.actOn (n.actOn (some t)) := by
  cases m with
  | beginRendering b => rfl
  | deleteSurface d => rfl
  | unknown case =>
    have equal : some s = some t := same
    rw [equal]
  | surfaceUpdate u =>
    have equal : s.withComponents u.components = t.withComponents u.components :=
      Option.some.inj same
    cases n with
    | beginRendering b => rfl
    | deleteSurface d => rfl
    | unknown case => exact same
    | surfaceUpdate v =>
      exact congrArg some (Surface.withComponents_forgives equal v.components)
    | dataModelUpdate v =>
      have equalAfter : (s.withData v).withComponents u.components =
          (t.withData v).withComponents u.components := by
        rw [Surface.withData_withComponents, Surface.withData_withComponents, equal]
      exact congrArg some equalAfter
  | dataModelUpdate u =>
    have equal : s.withData u = t.withData u := Option.some.inj same
    cases n with
    | beginRendering b => rfl
    | deleteSurface d => rfl
    | unknown case => exact same
    | surfaceUpdate v =>
      have equalAfter : (s.withComponents v.components).withData u =
          (t.withComponents v.components).withData u := by
        rw [← Surface.withData_withComponents, ← Surface.withData_withComponents, equal]
      exact congrArg some equalAfter
    | dataModelUpdate v => exact congrArg some (Surface.withData_forgives equal v)

/-- What a message makes equal, live or not, is made equal by it after any other message. -/
theorem actOn_forgives {m : ValidMessage} {one other : Option Surface}
    (same : m.actOn one = m.actOn other) (n : ValidMessage) :
    m.actOn (n.actOn one) = m.actOn (n.actOn other) := by
  by_cases discarding : m.discards = true
  · exact actOn_of_discards discarding _ _
  -- Without a discard no message makes a live surface and a missing one equal.
  · cases one with
    | none =>
      cases other with
      | none => rfl
      | some t => cases m <;> first | exact absurd rfl discarding | cases same
    | some s =>
      cases other with
      | none => cases m <;> first | exact absurd rfl discarding | cases same
      | some t => exact actOn_forgives_live same n

theorem actAll_forgives {m : ValidMessage} {one other : Option Surface}
    (same : m.actOn one = m.actOn other) (ns : List ValidMessage) :
    m.actOn (actAll ns one) = m.actOn (actAll ns other) := by
  induction ns generalizing one other with
  | nil => exact same
  | cons n ns ih => exact ih (actOn_forgives same n)

/-- A message that acts among others may as well not have acted before them. -/
theorem actAll_absorbs {m : ValidMessage} {ms : List ValidMessage} (later : m ∈ ms)
    (slot : Option Surface) : actAll ms (m.actOn slot) = actAll ms slot := by
  obtain ⟨before, after, rfl⟩ := List.append_of_mem later
  have met : m.actOn (actAll before (m.actOn slot)) = m.actOn (actAll before slot) :=
    actAll_forgives (actOn_again m slot) before
  rw [actAll_append, actAll_append]
  exact congrArg (actAll after) met

/-- Messages that all act again later may as well not have acted before. -/
theorem actAll_absorbs_all {first ms : List ValidMessage} (later : ∀ m ∈ first, m ∈ ms)
    (slot : Option Surface) : actAll ms (actAll first slot) = actAll ms slot := by
  induction first generalizing slot with
  | nil => rfl
  | cons m first ih =>
    have tail : ∀ n ∈ first, n ∈ ms := fun n member => later n (List.mem_cons_of_mem m member)
    calc
      actAll ms (actAll first (m.actOn slot)) = actAll ms (m.actOn slot) := ih tail _
      _ = actAll ms slot := actAll_absorbs (later m List.mem_cons_self) slot

end ValidMessage

namespace Snapshot

open ValidMessage

theorem messages_addressed_subset {first ms : List ValidMessage} (started : first <+: ms)
    (id : String) : ∀ m ∈ addressed id first, m ∈ addressed id ms := by
  intro m member
  obtain ⟨known, aimed⟩ := List.mem_filter.mp member
  exact List.mem_filter.mpr ⟨started.subset known, aimed⟩

/-- A stream that breaks after some of its messages and is then sent as a whole leads from any
snapshot to the surfaces that it leads to when it is sent once. -/
theorem broken_replay_converges (s : Snapshot) {broken whole once : List Stamped}
    (started : messages broken <+: messages whole) (same : messages once = messages whole) :
    ((s.replay broken).replay whole).contents = (s.replay once).contents := by
  apply contents_ext
  intro id
  rw [surface?_replay, surface?_replay, surface?_replay, same]
  exact actAll_absorbs_all (messages_addressed_subset started id) _

def textEntry (key text : String) : Entry := .mk key (some text) none none .absent none

/-- A snapshot whose data holds a text where a later message writes a map. -/
def withTextInTheWay : Snapshot :=
  empty.replay
    [(0, .beginRendering { surfaceId := "form", root := "card" }),
      (1, .dataModelUpdate { surfaceId := "form", contents := [textEntry "user" "nobody"] })]

/-- A stream that writes below that text, adds a component, and begins another surface. -/
def throughTheText : List ValidMessage :=
  [.dataModelUpdate
      { surfaceId := "form", path := some "/user", contents := [textEntry "name" "Ada"] },
    .surfaceUpdate { surfaceId := "form", components := [{ id := "card", type := "Card" }] },
    .beginRendering { surfaceId := "menu", root := "list" }]

theorem broken_replay_through_text_converges :
    messages (stampedFrom 2 (throughTheText.take 2)) <+:
        messages (stampedFrom 4 throughTheText) ∧
      messages (stampedFrom 2 throughTheText) = messages (stampedFrom 4 throughTheText) ∧
      ((withTextInTheWay.replay (stampedFrom 2 (throughTheText.take 2))).replay
          (stampedFrom 4 throughTheText)).contents =
        (withTextInTheWay.replay (stampedFrom 2 throughTheText)).contents :=
  ⟨⟨_, rfl⟩, rfl, broken_replay_converges withTextInTheWay ⟨_, rfl⟩ rfl⟩

end Snapshot

end RemoteSurface
