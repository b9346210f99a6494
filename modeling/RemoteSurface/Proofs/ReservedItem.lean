import RemoteSurface.Proofs.DataNodes
import RemoteSurface.Proofs.ReplayConvergence
/-!
The key of the item. A lookup takes whatever stands under that key for the item of a repeated
component, so the data of a surface is looked up from its root alone as long as nothing stands
there. Nothing in the check of messages or in their application keeps the key free: it stays free in
a run exactly if no update that writes it meets its surface alive.
-/
namespace RemoteSurface

namespace DataModel

/-- Whether nothing stands under the key of the item. -/
def ItemFree (m : DataModel) : Prop := m.find? itemKey = none

theorem find?_replaceAt_cons (m c : DataModel) (s : String) (rest : List String) (k : String) :
    (m.replaceAt (s :: rest) c).find? k =
      if k = s then some (Value.replaceAt c (m.find? s) rest) else m.find? k := by
  rw [replaceAt_cons, Table.find?_put]

theorem reach?_null (segments : List String) : Value.null.reach? segments = none := by
  cases segments with
  | nil => rfl
  | cons s rest => rfl

/-- Every path is looked up from the root exactly if the item is missing or null. -/
theorem lookup?_eq_fromRoot?_iff (m : DataModel) :
    (∀ p : DataPath, m.lookup? p = m.fromRoot? p.segments) ↔
      ∀ item, m.find? itemKey = some item → item.isNull = true := by
  constructor
  · intro fromRoot item stands
    -- The relative path without segments is that of the item itself, and leads nowhere from the root.
    have current := fromRoot ⟨false, []⟩
    rw [lookup?, stands] at current
    cases null : item.isNull with
    | true => rfl
    | false =>
      have found : item.reach? [] = some item := by
        simp [Value.reach?, Value.walk?, Option.filter, null]
      rw [Option.bind_some] at current
      rw [found] at current
      cases current
  · intro harmless p
    obtain ⟨absolute, segments⟩ := p
    cases absolute with
    | true => rfl
    | false =>
      have nothing : ((m.find? itemKey).bind fun item => item.reach? segments) = none := by
        cases stands : m.find? itemKey with
        | none => rfl
        | some item =>
          have null := harmless item stands
          cases item with
          | null => exact reach?_null segments
          | _ => cases null
      rw [lookup?]
      simp only [Bool.false_eq_true, if_false, nothing, Option.none_or]

theorem ItemFree.lookup? {m : DataModel} (free : m.ItemFree) (p : DataPath) :
    m.lookup? p = m.fromRoot? p.segments := by
  apply (lookup?_eq_fromRoot?_iff m).mpr
  intro item stands
  rw [free] at stands
  cases stands

end DataModel

/-- Whether an update writes the key of the item: at the root among its contents, elsewhere as the
first key of its path. -/
def DataModelUpdate.writesItem (u : DataModelUpdate) : Bool :=
  match (Surface.updatePath u).segments with
  | [] => (Entry.toModel u.contents).contains DataModel.itemKey
  | first :: _ => first == DataModel.itemKey

theorem Surface.withData_itemFree_iff {s : Surface} (free : s.dataModel.ItemFree)
    (u : DataModelUpdate) : (s.withData u).dataModel.ItemFree ↔ u.writesItem = false := by
  rw [withData, DataModelUpdate.writesItem, DataModel.ItemFree]
  cases (updatePath u).segments with
  | nil =>
    rw [DataModel.replaceAt_nil, Table.contains, Option.isSome_eq_false_iff, Option.isNone_iff_eq_none]
  | cons first rest =>
    rw [DataModel.find?_replaceAt_cons]
    by_cases own : DataModel.itemKey = first
    · simp [← own]
    · have other : (first == DataModel.itemKey) = false := by
        rw [beq_eq_false_iff_ne]
        exact Ne.symm own
      rw [if_neg own]
      exact iff_of_true free other

namespace Snapshot

/-- Whether the key of the item is free on every surface. -/
def ItemFree (s : Snapshot) : Prop := s.Everywhere fun _ surface => surface.dataModel.ItemFree

/-- A message intrudes on a snapshot if it writes the key of the item on a live surface. -/
def Intrudes (s : Snapshot) (m : ValidMessage) : Prop :=
  ∃ u surface, m = .dataModelUpdate u ∧ s.surface? u.surfaceId = some surface ∧
    u.writesItem = true

theorem empty_itemFree : empty.ItemFree :=
  empty_everywhere fun _ surface => surface.dataModel.ItemFree

/-- A message that does not intrude leaves the key free on the surface it acts on. -/
theorem actOn_itemFree {s : Snapshot} (free : s.ItemFree) {m : ValidMessage}
    (harmless : ¬ s.Intrudes m) {id : String} (aimed : m.addresses id = true) {surface : Surface}
    (made : m.actOn (s.surface? id) = some surface) : surface.dataModel.ItemFree := by
  cases m with
  | beginRendering b =>
    obtain rfl : Surface.start b = surface := Option.some.inj made
    rfl
  | surfaceUpdate u =>
    obtain ⟨before, live, rfl⟩ := Option.map_eq_some_iff.mp made
    rw [Surface.withComponents_eq]
    exact free id before live
  | dataModelUpdate u =>
    obtain ⟨before, live, rfl⟩ := Option.map_eq_some_iff.mp made
    rw [Surface.withData_itemFree_iff (free id before live)]
    obtain rfl := (ValidMessage.addresses_iff (m := .dataModelUpdate u) rfl).mp aimed
    cases writes : u.writesItem with
    | false => rfl
    | true => exact absurd ⟨u, before, rfl, live, writes⟩ harmless
  | deleteSurface d => cases made
  | unknown case => exact free id surface made

/-- A step keeps the key of the item free exactly if its message does not intrude. -/
theorem reduce_itemFree_iff {s : Snapshot} (free : s.ItemFree) (stamp : Nat) (m : ValidMessage) :
    (s.reduce stamp m).ItemFree ↔ ¬ s.Intrudes m := by
  constructor
  · rintro kept ⟨u, surface, rfl, live, writes⟩
    have after : (surface.withData u).dataModel.ItemFree :=
      kept u.surfaceId (surface.withData u) (surface?_reduce_data stamp live)
    rw [Surface.withData_itemFree_iff (free u.surfaceId surface live), writes] at after
    cases after
  · intro harmless
    apply Everywhere.reduce free
    intro id surface aimed made
    exact actOn_itemFree free harmless aimed made

/-- The key of the item stays free on all surfaces throughout a run from the empty snapshot exactly
if no message of the run intrudes on the snapshot that it meets; and while it is free, every path,
relative or not, is looked up from the root of a surface's data. -/
theorem item_key_stays_free_iff (ms : List Stamped) :
    ((∀ past, past <+: ms → (empty.replay past).ItemFree) ↔
      ∀ past m, past ++ [m] <+: ms → ¬ (empty.replay past).Intrudes m.2) ∧
    ∀ s : Snapshot, s.ItemFree → ∀ id surface, s.surface? id = some surface →
      ∀ p : DataPath, surface.dataModel.lookup? p = surface.dataModel.fromRoot? p.segments := by
  refine ⟨⟨?_, ?_⟩, ?_⟩
  · intro free past m started
    have before := free past ((List.prefix_append past [m]).trans started)
    have after := free (past ++ [m]) started
    rw [replay_concat] at after
    exact (reduce_itemFree_iff before m.1 m.2).mp after
  · intro harmless past started
    induction past using List.reverseRecOn with
    | nil => exact empty_itemFree
    | append_singleton past m ih =>
      have before := ih ((List.prefix_append past [m]).trans started)
      rw [replay_concat]
      exact (reduce_itemFree_iff before m.1 m.2).mpr (harmless past m started)
  · intro s free id surface live p
    exact (free id surface live).lookup? p

/-- The beginning of a surface, and an update of its data that stores a map under the key of the
item. -/
def formBegins : BeginRendering := { surfaceId := "form", root := "card" }

def itemTaken : DataModelUpdate :=
  { surfaceId := "form",
    contents := [
      .mk "$item" none none none (.entries [textEntry "name" "taken"]) none,
      textEntry "name" "root"] }

/-- Both messages are well formed, and after them the relative path is looked up in what the second
stored under the key of the item, although there is no repeated component. -/
theorem item_key_taken_by_update :
    ValidMessage.ofMessage { beginRendering := some formBegins } = .ok (.beginRendering formBegins) ∧
      ValidMessage.ofMessage { dataModelUpdate := some itemTaken } =
        .ok (.dataModelUpdate itemTaken) ∧
      ∃ surface, (empty.replay
          [(0, .beginRendering formBegins), (1, .dataModelUpdate itemTaken)]).surface? "form" =
            some surface ∧
        surface.dataModel.contains DataModel.itemKey = true ∧
        surface.dataModel.lookup? ⟨false, ["name"]⟩ = some (.text "taken") ∧
        surface.dataModel.fromRoot? ["name"] = some (.text "root") :=
  ⟨rfl, rfl, _, rfl, rfl, rfl, rfl⟩

end Snapshot

end RemoteSurface
