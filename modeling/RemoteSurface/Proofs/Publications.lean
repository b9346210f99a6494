import RemoteSurface.Proofs.SessionReplay
/-!
What a session publishes. Comparing stamps tells exactly whether a message touched a snapshot, and a
message leaves every surface it is not addressed to as it was, stamp and all. So a session publishes
one snapshot for each message that touches what it holds, and none for any other.
-/
namespace RemoteSurface

namespace Snapshot

/-- A surface that a message is not addressed to keeps its stamp and its content. -/
theorem find?_reduce_of_not_addressed {m : ValidMessage} {id : String}
    (apart : m.addresses id = false) (s : Snapshot) (stamp : Nat) :
    (s.reduce stamp m).surfaces.find? id = s.surfaces.find? id := by
  have other {target : String} (aimed : m.target? = some target) : id ≠ target := by
    rw [Ne, ← ValidMessage.addresses_iff aimed, apart]
    exact Bool.false_ne_true
  have kept (target : String) (change : Surface → Surface) (different : id ≠ target) :
      (s.update stamp target change).surfaces.find? id = s.surfaces.find? id := by
    unfold update
    split
    · rw [Table.find?_put, if_neg different]
    · rfl
  cases m with
  | beginRendering b =>
    have different : id ≠ (Surface.start b).id := other rfl
    rw [reduce, withSurface, Table.find?_put, if_neg different]
  | surfaceUpdate u => exact kept u.surfaceId (·.withComponents u.components) (other rfl)
  | dataModelUpdate u => exact kept u.surfaceId (·.withData u) (other rfl)
  | deleteSurface d => rw [reduce, withoutSurface, Table.find?_erase, if_neg (other rfl)]
  | unknown case => rfl

/-- What messages leave to publish, one after another: each that touches the snapshot it meets, what
it makes of that. -/
def publications (s : Snapshot) (stamp : Nat) : List ValidMessage → List Snapshot
  | [] => []
  | m :: ms =>
    let next := s.reduce stamp m
    (if s.touchedBy m then [next] else []) ++ publications next (stamp + 1) ms

/-- A change is told where the message touches the snapshot. -/
theorem change?_eq {s : Snapshot} {stamp : Nat} (unused : s.Unused stamp) (m : ValidMessage) :
    s.change? stamp m = if s.touchedBy m then some (s.reduce stamp m) else none := by
  unfold change?
  cases touched : s.touchedBy m with
  | true => rw [(reduce_sharesWith_eq_false_iff unused m).mpr touched, if_pos rfl]; rfl
  | false => rw [reduce_of_not_touched touched, sharesWith_self]; rfl

end Snapshot

namespace Moment.Follows

/-- Moments that follow a snapshot publish what the messages taken leave to publish. -/
theorem published_eq {s t : Snapshot} {j k : Nat} {ms : List Moment} (told : Follows s j ms t k)
    (fresh : s.Before j) : ms.filterMap published? = s.publications j (taken ms) := by
  induction told with
  | nil s stamp => rfl
  | @cons s next last stamp after final m rest step _ ih =>
    have later := ih (step.before fresh)
    cases step with
    | @applied payload valid read =>
      have published : (applied payload (s.change? stamp valid)).published? =
          s.change? stamp valid := rfl
      rw [Snapshot.change?_getD fresh] at later
      rw [taken_applied read, Snapshot.publications, ← later, List.filterMap_cons, published,
        Snapshot.change?_eq fresh.unused]
      cases s.touchedBy valid <;> rfl
    | refused invalid =>
      rw [taken_refused invalid, ← later]
      rfl
    | quiet noPayload silent =>
      rw [taken_of_none noPayload, ← later, List.filterMap_cons_none silent]

end Moment.Follows

namespace Session

open Moment

/-- Comparing stamps is an exact test of change. Snapshots share their surfaces where every id has
the same stamp, or none, in both. A message applied under an unused stamp makes a snapshot that
does not share exactly where it begins a surface, or updates or deletes one that is live; where it
makes one that does share, that is the snapshot it met; and it leaves every surface that it is not
addressed to as it was, with its stamp. However a session fares, and wherever it is cancelled, it
publishes one snapshot for each message taken that touches what it holds by then, and no other. -/
theorem sharing_tells_changes :
    (∀ s t : Snapshot, s.sharesWith t = true ↔ ∀ id, s.stamp? id = t.stamp? id) ∧
    (∀ (s : Snapshot) (stamp : Nat), s.Unused stamp → ∀ m : ValidMessage,
      ((s.reduce stamp m).sharesWith s = false ↔ s.touchedBy m = true) ∧
      ((s.reduce stamp m).sharesWith s = true → s.reduce stamp m = s) ∧
      ∀ id, m.addresses id = false →
        (s.reduce stamp m).surfaces.find? id = s.surfaces.find? id) ∧
    ∀ (s : Session) (receipts : List Bool) (attempts : List Connection) (history : List Moment),
      s.MayRun receipts attempts history →
        history.filterMap published? = Snapshot.empty.publications 0 (taken history) := by
  refine ⟨Snapshot.sharesWith_iff_stamp?, ?_, ?_⟩
  · intro s stamp unused m
    refine ⟨Snapshot.reduce_sharesWith_eq_false_iff unused m, ?_, ?_⟩
    · exact (Snapshot.reduce_sharesWith_iff unused m).mp
    · intro id apart
      exact Snapshot.find?_reduce_of_not_addressed apart s stamp
  · intro s receipts attempts history possible
    obtain ⟨last, final, told⟩ := history_follows possible
    exact told.published_eq (Snapshot.empty_before 0)

end Session

end RemoteSurface
