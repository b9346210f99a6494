import RemoteSurface.Snapshot
import RemoteSurface.Proofs.TableLaws
/-!
Histories of single surfaces. What a surface holds after a replay is told by the messages that are
addressed to it alone, one acting on it after another; where one of them begins or deletes it,
nothing before that counts, not even the snapshot that the replay started from. Stamps say when a
surface was touched and never what it holds, so two replays are compared by their messages.
-/
namespace RemoteSurface

namespace ValidMessage

/-- Whether a message is addressed to a surface. -/
def addresses (id : String) (m : ValidMessage) : Bool := m.target? == some id

/-- Whether a message discards what its surface was before. -/
def discards : ValidMessage → Bool
  | .beginRendering _ => true
  | .deleteSurface _ => true
  | _ => false

/-- What a message makes of the surface it is addressed to. -/
def actOn : ValidMessage → Option Surface → Option Surface
  | .beginRendering b, _ => some (Surface.start b)
  | .surfaceUpdate u, slot => slot.map fun surface => surface.withComponents u.components
  | .dataModelUpdate u, slot => slot.map fun surface => surface.withData u
  | .deleteSurface _, _ => none
  | .unknown _, slot => slot

/-- What messages make of one surface, one after another. -/
def actAll (ms : List ValidMessage) (slot : Option Surface) : Option Surface :=
  ms.foldl (fun slot m => m.actOn slot) slot

/-- The messages that are addressed to a surface. -/
def addressed (id : String) (ms : List ValidMessage) : List ValidMessage :=
  ms.filter (addresses id)

theorem addresses_iff {m : ValidMessage} {target id : String} (aimed : m.target? = some target) :
    m.addresses id = true ↔ id = target := by
  rw [addresses, aimed, Option.some_beq_some, beq_iff_eq]
  exact eq_comm

theorem actAll_append (ms ns : List ValidMessage) (slot : Option Surface) :
    actAll (ms ++ ns) slot = actAll ns (actAll ms slot) :=
  List.foldl_append

theorem addressed_append (id : String) (ms ns : List ValidMessage) :
    addressed id (ms ++ ns) = addressed id ms ++ addressed id ns :=
  List.filter_append ms ns

theorem addressed_addressed (id : String) (ms : List ValidMessage) :
    addressed id (addressed id ms) = addressed id ms := by
  simp only [addressed, List.filter_filter, Bool.and_self]

theorem actOn_of_discards {m : ValidMessage} (discarding : m.discards = true)
    (one other : Option Surface) : m.actOn one = m.actOn other := by
  cases m with
  | beginRendering b => rfl
  | deleteSurface d => rfl
  | surfaceUpdate u => exact absurd discarding Bool.false_ne_true
  | dataModelUpdate u => exact absurd discarding Bool.false_ne_true
  | unknown case => exact absurd discarding Bool.false_ne_true

end ValidMessage

namespace Snapshot

open ValidMessage

/-- Stamped messages without their stamps. -/
def messages (ms : List Stamped) : List ValidMessage := ms.map Prod.snd

/-- Messages, each under the next stamp from the given one on. -/
def stampedFrom : Nat → List ValidMessage → List Stamped
  | _, [] => []
  | stamp, m :: ms => (stamp, m) :: stampedFrom (stamp + 1) ms

theorem surface?_withSurface (s : Snapshot) (stamp : Nat) (surface : Surface) (id : String) :
    (s.withSurface stamp surface).surface? id =
      if id = surface.id then some surface else s.surface? id := by
  simp only [surface?, withSurface, Table.find?_put]
  split <;> rfl

theorem surface?_withoutSurface (s : Snapshot) (gone id : String) :
    (s.withoutSurface gone).surface? id = if id = gone then none else s.surface? id := by
  simp only [surface?, withoutSurface, Table.find?_erase]
  split <;> rfl

theorem surface?_update (s : Snapshot) (stamp : Nat) (touched id : String)
    (change : Surface → Surface) :
    (s.update stamp touched change).surface? id =
      if id = touched then (s.surface? id).map change else s.surface? id := by
  by_cases same : id = touched
  · subst same
    rw [if_pos rfl]
    cases found : s.surfaces.find? id with
    | none => simp only [update, surface?, found, Option.map_none]
    | some held =>
      simp only [update, surface?, found, Table.find?_put, if_pos, Option.map_some]
  · rw [if_neg same]
    cases found : s.surfaces.find? touched with
    | none => simp only [update, found]
    | some held => simp only [update, surface?, found, Table.find?_put, if_neg same]

/-- A message acts on the surface it is addressed to, and on no other. -/
theorem surface?_reduce (s : Snapshot) (stamp : Nat) (m : ValidMessage) (id : String) :
    (s.reduce stamp m).surface? id =
      if m.addresses id then m.actOn (s.surface? id) else s.surface? id := by
  cases m with
  | beginRendering b =>
    have named : (Surface.start b).id = b.surfaceId := rfl
    simp only [reduce, surface?_withSurface, named, actOn,
      addresses_iff (m := .beginRendering b) rfl]
  | surfaceUpdate u =>
    simp only [reduce, surface?_update, actOn, addresses_iff (m := .surfaceUpdate u) rfl]
  | dataModelUpdate u =>
    simp only [reduce, surface?_update, actOn, addresses_iff (m := .dataModelUpdate u) rfl]
  | deleteSurface d =>
    simp only [reduce, surface?_withoutSurface, actOn, addresses_iff (m := .deleteSurface d) rfl]
  | unknown case => rfl

theorem replay_cons (s : Snapshot) (m : Stamped) (ms : List Stamped) :
    s.replay (m :: ms) = (s.reduce m.1 m.2).replay ms := rfl

theorem replay_concat (s : Snapshot) (ms : List Stamped) (m : Stamped) :
    s.replay (ms ++ [m]) = (s.replay ms).reduce m.1 m.2 := by
  rw [replay, List.foldl_append]
  rfl

/-- Whether each surface is as it should be under its id. -/
def Everywhere (P : String → Surface → Prop) (s : Snapshot) : Prop :=
  ∀ id surface, s.surface? id = some surface → P id surface

theorem empty_everywhere (P : String → Surface → Prop) : empty.Everywhere P := by
  intro id surface found
  have missing : empty.surface? id = none := rfl
  rw [missing] at found
  cases found

/-- A step has to answer only for what its message makes of the surface it is addressed to. -/
theorem Everywhere.reduce {P : String → Surface → Prop} {s : Snapshot} (before : s.Everywhere P)
    (stamp : Nat) {m : ValidMessage}
    (made : ∀ id surface, m.addresses id = true → m.actOn (s.surface? id) = some surface →
      P id surface) : (s.reduce stamp m).Everywhere P := by
  intro id surface found
  rw [surface?_reduce] at found
  split at found
  next aimed => exact made id surface aimed found
  next => exact before id surface found

/-- The surface of an id after a replay is what the messages addressed to it make of it. -/
theorem surface?_replay (s : Snapshot) (ms : List Stamped) (id : String) :
    (s.replay ms).surface? id = actAll (addressed id (messages ms)) (s.surface? id) := by
  induction ms generalizing s with
  | nil => rfl
  | cons m ms ih =>
    have kept : addressed id (messages (m :: ms)) =
        if m.2.addresses id then m.2 :: addressed id (messages ms)
        else addressed id (messages ms) :=
      List.filter_cons
    rw [replay_cons, ih, surface?_reduce, kept]
    split
    · rfl
    · rfl

theorem find?_contents (s : Snapshot) (id : String) : s.contents.find? id = s.surface? id :=
  Table.find?_map Held.surface s.surfaces id

theorem contents_ext {s t : Snapshot} (same : ∀ id, s.surface? id = t.surface? id) :
    s.contents = t.contents := by
  apply Table.ext_find?
  intro id
  rw [find?_contents, find?_contents, same]

/-- Nothing before a message that discards its surface counts for that surface: neither the
messages there nor the snapshot they met. -/
theorem surface?_replay_after_discard {id : String} {last : ValidMessage}
    (addressedHere : last.addresses id = true) (discarding : last.discards = true)
    (s t : Snapshot) {ms ns : List Stamped} {before after : List ValidMessage}
    (first : messages ms = before ++ last :: after)
    (second : messages ns = last :: addressed id after) :
    (s.replay ms).surface? id = (t.replay ns).surface? id := by
  have kept : addressed id (last :: after) = last :: addressed id after := by
    rw [addressed, List.filter_cons, if_pos addressedHere]
    rfl
  have keptAgain : addressed id (last :: addressed id after) = last :: addressed id after := by
    rw [← kept, addressed_addressed]
  calc
    (s.replay ms).surface? id
      = actAll (last :: addressed id after) (actAll (addressed id before) (s.surface? id)) := by
        rw [surface?_replay, first, addressed_append, actAll_append, kept]
    _ = actAll (addressed id after) (last.actOn (t.surface? id)) := by
        exact congrArg (actAll (addressed id after)) (actOn_of_discards discarding _ _)
    _ = (t.replay ns).surface? id := by
        rw [surface?_replay, second, keptAgain]
        rfl

/-- Surfaces do not interfere. The surface of an id after a replay is the one that the messages
addressed to it alone lead to; after a message that begins or deletes it, only that message and
those addressed to it later count, whatever snapshot they meet; and replays that agree surface by
surface lead to the same surfaces. -/
theorem surfaces_do_not_interfere (s : Snapshot) (ms : List Stamped) :
    (∀ id ns, messages ns = addressed id (messages ms) →
      (s.replay ms).surface? id = (s.replay ns).surface? id) ∧
    (∀ id before last after, messages ms = before ++ last :: after →
      last.addresses id = true → last.discards = true →
      ∀ (t : Snapshot) (ns : List Stamped), messages ns = last :: addressed id after →
        (s.replay ms).surface? id = (t.replay ns).surface? id) ∧
    (∀ ns, (∀ id, addressed id (messages ms) = addressed id (messages ns)) →
      (s.replay ms).contents = (s.replay ns).contents) := by
  refine ⟨?_, ?_, ?_⟩
  · intro id ns alone
    rw [surface?_replay, surface?_replay, alone, addressed_addressed]
  · intro id before last after first addressedHere discarding t ns second
    exact surface?_replay_after_discard addressedHere discarding s t first second
  · intro ns agree
    apply contents_ext
    intro id
    rw [surface?_replay, surface?_replay, agree id]

end Snapshot

end RemoteSurface
