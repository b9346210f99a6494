import RemoteSurface.Snapshot
import RemoteSurface.Proofs.TableLaws
/-!
Sharing between snapshots. A message applied under a stamp that no surface of the snapshot bears
yet leaves its mark on every surface it touches, so a snapshot that shares all of its surfaces with
the one before is that one.
-/
namespace RemoteSurface

namespace Members

theorem stamps_eq_iff (ms ns : Members Held) :
    (ms.length == ns.length &&
        (ms.zip ns).all fun p => p.1.1 == p.2.1 && p.1.2.stamp == p.2.2.stamp) = true ↔
      ms.mapValues Held.stamp = ns.mapValues Held.stamp := by
  induction ms generalizing ns with
  | nil => cases ns <;> simp [mapValues]
  | cons m ms ih =>
    cases ns with
    | nil => simp [mapValues]
    | cons n ns =>
      have tails := ih ns
      simp only [mapValues, Bool.and_eq_true, beq_iff_eq] at tails
      simp only [mapValues, List.length_cons, List.zip_cons_cons, List.all_cons, List.map_cons,
        Bool.and_eq_true, beq_iff_eq, List.cons.injEq, Prod.mk.injEq, Nat.add_right_cancel_iff,
        ← tails]
      constructor
      · rintro ⟨lengths, head, rest⟩
        exact ⟨head, lengths, rest⟩
      · rintro ⟨head, lengths, rest⟩
        exact ⟨lengths, head, rest⟩

end Members

namespace Snapshot

/-- Every surface was last changed under a stamp below the given one. -/
def Before (stamp : Nat) (s : Snapshot) : Prop :=
  ∀ id held, s.surfaces.find? id = some held → held.stamp < stamp

/-- The stamp of the surface of an id. -/
def stamp? (s : Snapshot) (id : String) : Option Nat := (s.surfaces.find? id).map Held.stamp

theorem empty_before (stamp : Nat) : empty.Before stamp := by
  intro id held found
  cases found

theorem Before.later {stamp : Nat} {s : Snapshot} (fresh : s.Before stamp) :
    s.Before (stamp + 1) := by
  intro id held found
  exact Nat.lt_succ_of_lt (fresh id held found)

theorem Before.put {stamp : Nat} {s : Snapshot} (fresh : s.Before stamp) (id : String)
    (surface : Surface) : Before (stamp + 1) ⟨s.surfaces.put id ⟨stamp, surface⟩⟩ := by
  intro other held found
  rw [Table.find?_put] at found
  split at found
  · cases found
    exact Nat.lt_succ_self stamp
  · exact fresh.later other held found

theorem Before.erase {stamp : Nat} {s : Snapshot} (fresh : s.Before stamp) (id : String) :
    (s.withoutSurface id).Before stamp := by
  intro other held found
  rw [withoutSurface, Table.find?_erase] at found
  split at found
  · cases found
  · exact fresh other held found

theorem Before.update {stamp : Nat} {s : Snapshot} (fresh : s.Before stamp) (id : String)
    (change : Surface → Surface) : (s.update stamp id change).Before (stamp + 1) := by
  unfold Snapshot.update
  split
  · exact fresh.put id _
  · exact fresh.later

/-- A message leaves no stamp above its own. -/
theorem Before.reduce {stamp : Nat} {s : Snapshot} (fresh : s.Before stamp) (m : ValidMessage) :
    (s.reduce stamp m).Before (stamp + 1) := by
  cases m with
  | beginRendering b => exact fresh.put b.surfaceId (Surface.start b)
  | surfaceUpdate u => exact fresh.update u.surfaceId _
  | dataModelUpdate u => exact fresh.update u.surfaceId _
  | deleteSurface d => exact (fresh.erase d.surfaceId).later
  | unknown case => exact fresh.later

theorem sharesWith_iff (s t : Snapshot) :
    s.sharesWith t = true ↔ s.surfaces.map Held.stamp = t.surfaces.map Held.stamp := by
  rw [sharesWith, Table.size, Table.size, Members.stamps_eq_iff, Table.ext_iff]
  rfl

theorem sharesWith_self (s : Snapshot) : s.sharesWith s = true := (sharesWith_iff s s).mpr rfl

/-- Snapshots share their surfaces where every id has the same stamp, or none, in both. -/
theorem sharesWith_iff_stamp? (s t : Snapshot) :
    s.sharesWith t = true ↔ ∀ id, s.stamp? id = t.stamp? id := by
  rw [sharesWith_iff]
  constructor
  · intro same id
    rw [stamp?, stamp?, ← Table.find?_map, same, Table.find?_map]
  · intro same
    apply Table.ext_find?
    intro id
    rw [Table.find?_map, Table.find?_map]
    exact same id

/-- No surface was last changed under a stamp. -/
def Unused (stamp : Nat) (s : Snapshot) : Prop := ∀ id, s.stamp? id ≠ some stamp

theorem Before.unused {stamp : Nat} {s : Snapshot} (fresh : s.Before stamp) : s.Unused stamp := by
  intro id marked
  obtain ⟨held, found, stamped⟩ := Option.map_eq_some_iff.mp marked
  have below := fresh id held found
  rw [stamped] at below
  exact Nat.lt_irrefl stamp below

theorem put_not_shared {stamp : Nat} {s : Snapshot} (unused : s.Unused stamp) (id : String)
    (surface : Surface) :
    (Snapshot.mk (s.surfaces.put id ⟨stamp, surface⟩)).sharesWith s = false := by
  rw [Bool.eq_false_iff, Ne, sharesWith_iff_stamp?]
  intro same
  apply unused id
  rw [← same id, stamp?, Table.find?_put, if_pos rfl, Option.map_some]

theorem erase_not_shared {s : Snapshot} {id : String} (live : s.contains id = true) :
    (s.withoutSurface id).sharesWith s = false := by
  rw [Bool.eq_false_iff, Ne, sharesWith_iff_stamp?]
  intro same
  have gone : s.stamp? id = none := by
    rw [← same id, stamp?, withoutSurface, Table.find?_erase, if_pos rfl, Option.map_none]
  rw [contains, Table.contains, Option.map_eq_none_iff.mp gone] at live
  cases live

theorem update_of_live {s : Snapshot} {id : String} (live : s.contains id = true) (stamp : Nat)
    (change : Surface → Surface) :
    ∃ surface, s.update stamp id change = ⟨s.surfaces.put id ⟨stamp, surface⟩⟩ := by
  obtain ⟨held, found⟩ := Option.isSome_iff_exists.mp live
  refine ⟨change held.surface, ?_⟩
  rw [update, found]

theorem find?_of_not_live {s : Snapshot} {id : String} (gone : s.contains id = false) :
    s.surfaces.find? id = none :=
  Option.not_isSome_iff_eq_none.mp (Bool.eq_false_iff.mp gone)

theorem update_of_not_live {s : Snapshot} {id : String} (gone : s.contains id = false) (stamp : Nat)
    (change : Surface → Surface) : s.update stamp id change = s := by
  rw [update, find?_of_not_live gone]

/-- Whether a message touches a snapshot: it begins a surface, or it updates or deletes one that is
live. -/
def touchedBy (s : Snapshot) : ValidMessage → Bool
  | .beginRendering _ => true
  | .surfaceUpdate u => s.contains u.surfaceId
  | .dataModelUpdate u => s.contains u.surfaceId
  | .deleteSurface d => s.contains d.surfaceId
  | .unknown _ => false

/-- A message that touches a snapshot leaves its stamp there, or takes one away. -/
theorem reduce_not_shared {stamp : Nat} {s : Snapshot} (unused : s.Unused stamp)
    {m : ValidMessage} (touched : s.touchedBy m = true) :
    (s.reduce stamp m).sharesWith s = false := by
  cases m with
  | beginRendering b => exact put_not_shared unused b.surfaceId _
  | surfaceUpdate u =>
    obtain ⟨surface, updated⟩ := update_of_live touched stamp (·.withComponents u.components)
    rw [reduce, updated]
    exact put_not_shared unused u.surfaceId surface
  | dataModelUpdate u =>
    obtain ⟨surface, updated⟩ := update_of_live touched stamp (·.withData u)
    rw [reduce, updated]
    exact put_not_shared unused u.surfaceId surface
  | deleteSurface d => exact erase_not_shared touched
  | unknown case => cases touched

/-- A message that does not touch a snapshot changes nothing. -/
theorem reduce_of_not_touched {s : Snapshot} {m : ValidMessage} (untouched : s.touchedBy m = false)
    (stamp : Nat) : s.reduce stamp m = s := by
  cases m with
  | beginRendering b => cases untouched
  | surfaceUpdate u => exact update_of_not_live untouched stamp (·.withComponents u.components)
  | dataModelUpdate u => exact update_of_not_live untouched stamp (·.withData u)
  | deleteSurface d =>
    exact Snapshot.ext (Table.erase_of_find?_none (find?_of_not_live untouched))
  | unknown case => rfl

/-- A message touches a snapshot exactly where it does not share all surfaces with it, given that
its stamp is unused there. -/
theorem reduce_sharesWith_eq_false_iff {stamp : Nat} {s : Snapshot} (unused : s.Unused stamp)
    (m : ValidMessage) : (s.reduce stamp m).sharesWith s = false ↔ s.touchedBy m = true := by
  constructor
  · intro apart
    cases touched : s.touchedBy m with
    | true => rfl
    | false =>
      rw [reduce_of_not_touched touched, sharesWith_self] at apart
      cases apart
  · exact reduce_not_shared unused

/-- A message changes nothing exactly where it shares all surfaces with the snapshot it met,
given that its stamp is unused there. -/
theorem reduce_sharesWith_iff {stamp : Nat} {s : Snapshot} (unused : s.Unused stamp)
    (m : ValidMessage) : (s.reduce stamp m).sharesWith s = true ↔ s.reduce stamp m = s := by
  constructor
  · intro shared
    apply reduce_of_not_touched
    rw [Bool.eq_false_iff, Ne, ← reduce_sharesWith_eq_false_iff unused, shared]
    exact Bool.noConfusion
  · intro unchanged
    rw [unchanged]
    exact sharesWith_self s

/-- What a message makes of a snapshot, if it does not share all surfaces with it. -/
def change? (s : Snapshot) (stamp : Nat) (m : ValidMessage) : Option Snapshot :=
  if (s.reduce stamp m).sharesWith s then none else some (s.reduce stamp m)

/-- Nothing is withheld where no change is told. -/
theorem change?_getD {stamp : Nat} {s : Snapshot} (fresh : s.Before stamp) (m : ValidMessage) :
    (s.change? stamp m).getD s = s.reduce stamp m := by
  unfold change?
  split
  next shared => exact ((reduce_sharesWith_iff fresh.unused m).mp shared).symm
  next apart => rfl

end Snapshot

end RemoteSurface
