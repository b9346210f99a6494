import RemoteSurface.Snapshot
import RemoteSurface.Proofs.TableLaws
/-!
Writes into a data model. A write at a path swallows an earlier one at or below that path, and
writes on paths that part from one another go in either order, whatever stands in the way of
either. Together these say that a write forgives whatever it is about to replace: models that a
write makes equal are still made equal by it after any other write.
-/
namespace RemoteSurface

namespace Value

/-- The members that a write finds in a slot: those of a map, and none in anything else. -/
def slotMembers (slot : Option Value) : Members Value := (slot.bind asMap?).getD []

@[simp] theorem slotMembers_map (ms : Members Value) : slotMembers (some (.map ms)) = ms := rfl

theorem replaceAt_nil (c : DataModel) (slot : Option Value) :
    replaceAt c slot [] = .map c.members := rfl

theorem replaceAt_cons (c : DataModel) (slot : Option Value) (s : String) (rest : List String) :
    replaceAt c slot (s :: rest) =
      .map (Members.put s (replaceAt c (Members.find? s (slotMembers slot)) rest)
        (slotMembers slot)) := rfl

/-- A write swallows an earlier one at its own path or below it. -/
theorem replaceAt_swallows {p q : List String} (below : q <+: p) (c d : DataModel)
    (slot : Option Value) :
    replaceAt d (some (replaceAt c slot p)) q = replaceAt d slot q := by
  induction q generalizing p slot with
  | nil => rfl
  | cons s q ih =>
    obtain ⟨rest, rfl⟩ := below
    rw [List.cons_append, replaceAt_cons d, replaceAt_cons c, replaceAt_cons d, slotMembers_map,
      Members.put_put, Members.find?_put, if_pos rfl, ih (List.prefix_append q rest)]

/-- Writes on paths that part go in either order. -/
theorem replaceAt_comm {p q : List String} (pq : ¬ p <+: q) (qp : ¬ q <+: p) (c d : DataModel)
    (slot : Option Value) :
    replaceAt d (some (replaceAt c slot p)) q = replaceAt c (some (replaceAt d slot q)) p := by
  induction p generalizing q slot with
  | nil => exact absurd List.nil_prefix pq
  | cons s p ih =>
    cases q with
    | nil => exact absurd List.nil_prefix qp
    | cons t q =>
      simp only [replaceAt_cons, slotMembers_map, Members.find?_put]
      by_cases same : s = t
      · subst same
        have pq' : ¬ p <+: q := fun h => pq (List.cons_prefix_cons.mpr ⟨rfl, h⟩)
        have qp' : ¬ q <+: p := fun h => qp (List.cons_prefix_cons.mpr ⟨rfl, h⟩)
        rw [if_pos rfl, if_pos rfl, Members.put_put, Members.put_put, ih pq' qp']
      · rw [if_neg (Ne.symm same), if_neg same, Members.put_comm (Ne.symm same)]

end Value

namespace DataModel

theorem replaceAt_nil (m c : DataModel) : m.replaceAt [] c = c := rfl

theorem replaceAt_cons (m c : DataModel) (s : String) (rest : List String) :
    m.replaceAt (s :: rest) c = m.put s (Value.replaceAt c (m.find? s) rest) := rfl

/-- A write into a data model is the write into the map of its members. -/
theorem map_replaceAt (m c : DataModel) (p : List String) :
    Value.map (m.replaceAt p c).members = Value.replaceAt c (some (.map m.members)) p := by
  cases p <;> rfl

theorem eq_of_map_eq {m n : DataModel} (same : Value.map m.members = Value.map n.members) :
    m = n :=
  Table.ext (Value.map.inj same)

theorem replaceAt_swallows {p q : List String} (below : q <+: p) (m c d : DataModel) :
    (m.replaceAt p c).replaceAt q d = m.replaceAt q d := by
  apply eq_of_map_eq
  rw [map_replaceAt, map_replaceAt, map_replaceAt, Value.replaceAt_swallows below]

theorem replaceAt_comm {p q : List String} (pq : ¬ p <+: q) (qp : ¬ q <+: p)
    (m c d : DataModel) :
    (m.replaceAt p c).replaceAt q d = (m.replaceAt q d).replaceAt p c := by
  apply eq_of_map_eq
  rw [map_replaceAt, map_replaceAt, map_replaceAt, map_replaceAt, Value.replaceAt_comm pq qp]

/-- Models that a write makes equal are made equal by it after any other write too: a write below
it is swallowed, a write above it replaces what it made, and a write apart from it can wait. -/
theorem replaceAt_forgives {p : List String} {m n c : DataModel}
    (same : m.replaceAt p c = n.replaceAt p c) (q : List String) (d : DataModel) :
    (m.replaceAt q d).replaceAt p c = (n.replaceAt q d).replaceAt p c := by
  by_cases below : p <+: q
  · rw [replaceAt_swallows below, replaceAt_swallows below, same]
  · by_cases above : q <+: p
    · rw [← replaceAt_swallows above m c d, ← replaceAt_swallows above n c d, same]
    · rw [replaceAt_comm above below, replaceAt_comm above below, same]

end DataModel

end RemoteSurface
