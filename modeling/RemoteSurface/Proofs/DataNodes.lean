import RemoteSurface.Proofs.DataWrites
import RemoteSurface.Proofs.SurfaceHistory
import RemoteSurface.Proofs.WrittenPaths
/-!
Nodes of data models: what stands at the end of some keys, reached through maps alone. A write at a
path makes the node there anew and leaves every node beside the path as it was, and a lookup finds
whatever node is not null. A path written from keys does both to the node of those keys, as long as
the last key does not end in a blank character; if it does, the path is that of another node.
-/
namespace RemoteSurface

namespace Value

/-- What keys lead down to, through maps alone. -/
def under? (v : Value) : List String → Option Value
  | [] => some v
  | k :: rest => (v.get? k).bind fun next => next.under? rest

theorem under?_map (ms : Members Value) (k : String) (rest : List String) :
    (Value.map ms).under? (k :: rest) =
      (Members.find? k ms).bind fun next => next.under? rest := rfl

theorem walk?_map (ms : Members Value) (k : String) (rest : List String) :
    (Value.map ms).walk? (k :: rest) =
      (Members.find? k ms).bind fun next => next.walk? rest := rfl

/-- Below the first of some keys there is something only in a map. -/
theorem eq_map_of_under? {v w : Value} {k : String} {rest : List String}
    (found : v.under? (k :: rest) = some w) :
    ∃ ms next, v = .map ms ∧ Members.find? k ms = some next ∧ next.under? rest = some w := by
  obtain ⟨next, held, below⟩ := Option.bind_eq_some_iff.mp found
  obtain ⟨ms, isMap, member⟩ := Option.bind_eq_some_iff.mp held
  cases v with
  | map ms' =>
    cases isMap
    exact ⟨ms, next, rfl, member, below⟩
  | _ => cases isMap

theorem walk?_of_under? {v w : Value} {keys : List String} (found : v.under? keys = some w) :
    v.walk? keys = some w := by
  induction keys generalizing v with
  | nil => exact found
  | cons k rest ih =>
    obtain ⟨ms, next, rfl, member, below⟩ := eq_map_of_under? found
    rw [walk?_map, member, Option.bind_some]
    exact ih below

/-- What keys lead down to in a slot is looked for among the members that a write finds there. -/
theorem slot_under?_cons (slot : Option Value) (k : String) (rest : List String) :
    (slot.bind fun v => v.under? (k :: rest)) =
      (Members.find? k (slotMembers slot)).bind fun next => next.under? rest := by
  cases slot with
  | none => rfl
  | some v =>
    cases v with
    | map ms => rfl
    | _ => rfl

/-- A write puts the new contents at its own path. -/
theorem under?_replaceAt_append (c : DataModel) (slot : Option Value) (p below : List String) :
    (replaceAt c slot p).under? (p ++ below) = (Value.map c.members).under? below := by
  induction p generalizing slot with
  | nil => rfl
  | cons s p ih =>
    rw [replaceAt_cons, List.cons_append, under?_map, Members.find?_put, if_pos rfl,
      Option.bind_some, ih]

/-- A write leaves alone what stands beside its path. -/
theorem under?_replaceAt_of_apart {p q : List String} (pq : ¬ p <+: q) (qp : ¬ q <+: p)
    (c : DataModel) (slot : Option Value) :
    (replaceAt c slot p).under? q = slot.bind fun v => v.under? q := by
  induction p generalizing q slot with
  | nil => exact absurd List.nil_prefix pq
  | cons s p ih =>
    cases q with
    | nil => exact absurd List.nil_prefix qp
    | cons t q =>
      rw [replaceAt_cons, under?_map, Members.find?_put, slot_under?_cons]
      by_cases same : t = s
      · subst same
        have pq' : ¬ p <+: q := fun h => pq (List.cons_prefix_cons.mpr ⟨rfl, h⟩)
        have qp' : ¬ q <+: p := fun h => qp (List.cons_prefix_cons.mpr ⟨rfl, h⟩)
        rw [if_pos rfl, Option.bind_some, ih pq' qp']
      · rw [if_neg same]

/-- What stands below the end of some keys is found from what stands at their end. -/
theorem under?_append (v : Value) (keys below : List String) :
    v.under? (keys ++ below) = (v.under? keys).bind fun w => w.under? below := by
  induction keys generalizing v with
  | nil => rfl
  | cons k rest ih =>
    rw [List.cons_append, under?, under?]
    cases v.get? k with
    | none => rfl
    | some next => exact ih next

/-- Whether nothing but maps stands on the way to the end of some keys, as far as anything does. -/
def Clear (slot : Option Value) (p : List String) : Prop :=
  ∀ front, front <+: p → front ≠ p → ∀ w, (slot.bind fun v => v.under? front) = some w →
    ∃ ms, w = .map ms

theorem Clear.below {slot : Option Value} {s : String} {p : List String}
    (clear : Clear slot (s :: p)) : Clear (Members.find? s (slotMembers slot)) p := by
  intro front shorter different w found
  rw [← slot_under?_cons] at found
  refine clear (s :: front) (List.cons_prefix_cons.mpr ⟨rfl, shorter⟩) ?_ w found
  intro same
  exact different (List.cons.inj same).2

/-- On a clear way a slot leads on through the members that a write finds there. -/
theorem Clear.walk?_cons {slot : Option Value} {s : String} {p : List String}
    (clear : Clear slot (s :: p)) (k : String) (rest : List String) :
    (slot.bind fun v => v.walk? (k :: rest)) =
      (Members.find? k (slotMembers slot)).bind fun next => next.walk? rest := by
  cases slot with
  | none => rfl
  | some v =>
    obtain ⟨ms, rfl⟩ := clear [] List.nil_prefix (List.cons_ne_nil s p).symm v rfl
    rfl

/-- Where something stands at the end of some keys, nothing but maps stands on the way. -/
theorem clear_of_under? {v w : Value} {p : List String} (stored : v.under? p = some w) :
    Clear (some v) p := by
  rintro front ⟨below, rfl⟩ different node found
  rw [under?_append] at stored
  have reached : v.under? front = some node := found
  rw [reached] at stored
  cases below with
  | nil => exact absurd (List.append_nil front).symm different
  | cons k rest =>
    obtain ⟨ms, next, isMap, -, -⟩ := eq_map_of_under? stored
    exact ⟨ms, isMap⟩

/-- A write puts the new contents at its own path, and lists in them are there too. -/
theorem walk?_replaceAt_append (c : DataModel) (slot : Option Value) (p below : List String) :
    (replaceAt c slot p).walk? (p ++ below) = (Value.map c.members).walk? below := by
  induction p generalizing slot with
  | nil => rfl
  | cons s p ih =>
    rw [replaceAt_cons, List.cons_append, walk?_map, Members.find?_put, if_pos rfl,
      Option.bind_some, ih]

/-- Where the way of a write is clear, what paths beside it lead to stays, through lists as well as
through maps. A list in the way would give place to a map, and what was found in it would be
lost. -/
theorem walk?_replaceAt_of_clear {p q : List String} (pq : ¬ p <+: q) (qp : ¬ q <+: p)
    (c : DataModel) {slot : Option Value} (clear : Clear slot p) :
    (replaceAt c slot p).walk? q = slot.bind fun v => v.walk? q := by
  induction p generalizing q slot with
  | nil => exact absurd List.nil_prefix pq
  | cons s p ih =>
    cases q with
    | nil => exact absurd List.nil_prefix qp
    | cons t q =>
      rw [replaceAt_cons, walk?_map, Members.find?_put, clear.walk?_cons]
      by_cases same : t = s
      · subst same
        have pq' : ¬ p <+: q := fun h => pq (List.cons_prefix_cons.mpr ⟨rfl, h⟩)
        have qp' : ¬ q <+: p := fun h => qp (List.cons_prefix_cons.mpr ⟨rfl, h⟩)
        rw [if_pos rfl, Option.bind_some, ih pq' qp' clear.below]
      · rw [if_neg same]

end Value

namespace DataModel

/-- The node that keys lead to; no keys lead to the map of all members. -/
def node? (m : DataModel) (keys : List String) : Option Value := (Value.map m.members).under? keys

theorem fromRoot?_cons (m : DataModel) (k : String) (rest : List String) :
    m.fromRoot? (k :: rest) = (Value.map m.members).reach? (k :: rest) := by
  rw [fromRoot?, Value.reach?, Value.walk?_map, Table.find?]
  cases Members.find? k m.members with
  | none => rfl
  | some v => rfl

/-- A lookup finds the node of its keys, unless that is null. -/
theorem fromRoot?_of_node? {m : DataModel} {keys : List String} (nonempty : keys ≠ []) {v : Value}
    (stored : m.node? keys = some v) (solid : v.isNull = false) :
    m.fromRoot? keys = some v := by
  obtain ⟨k, rest, rfl⟩ := List.exists_cons_of_ne_nil nonempty
  rw [fromRoot?_cons, Value.reach?, Value.walk?_of_under? stored]
  simp [Option.filter, solid]

theorem node?_replaceAt_append (m c : DataModel) (p below : List String) :
    (m.replaceAt p c).node? (p ++ below) = c.node? below := by
  rw [node?, map_replaceAt, Value.under?_replaceAt_append]
  rfl

theorem node?_replaceAt_of_apart {p q : List String} (pq : ¬ p <+: q) (qp : ¬ q <+: p)
    (m c : DataModel) : (m.replaceAt p c).node? q = m.node? q := by
  rw [node?, map_replaceAt, Value.under?_replaceAt_of_apart pq qp]
  rfl

/-- Whether nothing but maps stands on the way to the node of some keys, as far as anything does. -/
def Clear (m : DataModel) (p : List String) : Prop := Value.Clear (some (.map m.members)) p

/-- Below the path of a write a lookup finds what it finds in the new contents. -/
theorem fromRoot?_replaceAt_append {p : List String} (nonempty : p ≠ []) (m c : DataModel)
    (below : List String) :
    (m.replaceAt p c).fromRoot? (p ++ below) = (Value.map c.members).reach? below := by
  obtain ⟨s, rest, rfl⟩ := List.exists_cons_of_ne_nil nonempty
  rw [List.cons_append, fromRoot?_cons, map_replaceAt, Value.reach?, ← List.cons_append,
    Value.walk?_replaceAt_append]
  rfl

theorem fromRoot?_replaceAt_of_clear {p q : List String} (pq : ¬ p <+: q) (qp : ¬ q <+: p)
    {m : DataModel} (c : DataModel) (clear : m.Clear p) :
    (m.replaceAt p c).fromRoot? q = m.fromRoot? q := by
  cases q with
  | nil => exact absurd List.nil_prefix qp
  | cons t q =>
    rw [fromRoot?_cons, fromRoot?_cons, map_replaceAt, Value.reach?,
      Value.walk?_replaceAt_of_clear pq qp c clear]
    rfl

theorem fromRoot?_replaceAt_of_apart {p q : List String} (pq : ¬ p <+: q) (qp : ¬ q <+: p)
    (m c : DataModel) {w : Value} (stored : m.node? p = some w) :
    (m.replaceAt p c).fromRoot? q = m.fromRoot? q :=
  fromRoot?_replaceAt_of_clear pq qp c (Value.clear_of_under? stored)

theorem lookup?_absolute (m : DataModel) (segments : List String) :
    m.lookup? ⟨true, segments⟩ = m.fromRoot? segments := rfl

end DataModel

namespace DataPath

open Segment

theorem parse_write_of_nameable {keys : List String} (nonempty : keys ≠ [])
    (nameable : ∀ k ∈ keys, isNameable k = true) :
    parse (write keys) =
      ⟨true, keys.dropLast ++ [trimEnd (keys.getLast nonempty)].filter isNameable⟩ := by
  have whole := List.dropLast_append_getLast nonempty
  have front : keys.dropLast.filter isNameable = keys.dropLast := by
    rw [List.filter_eq_self]
    intro k member
    exact nameable k (List.dropLast_subset keys member)
  calc
    parse (write keys) = parse (write (keys.dropLast ++ [keys.getLast nonempty])) := by rw [whole]
    _ = ⟨true, (keys.dropLast ++ [trimEnd (keys.getLast nonempty)]).filter isNameable⟩ :=
      parse_write _ _
    _ = _ := by rw [List.filter_append, front]

/-- A written path leads over its own keys exactly if the last of them does not end in a blank. -/
theorem segments_parse_write_iff {keys : List String} (nonempty : keys ≠ [])
    (nameable : ∀ k ∈ keys, isNameable k = true) :
    (parse (write keys)).segments = keys ↔ endsBlank (keys.getLast nonempty) = false := by
  have whole := List.dropLast_append_getLast nonempty
  rw [parse_write_of_nameable nonempty nameable, ← trimEnd_eq_self_iff]
  constructor
  · intro same
    have lasts : [trimEnd (keys.getLast nonempty)].filter isNameable = [keys.getLast nonempty] :=
      List.append_cancel_left (same.trans whole.symm)
    have kept : keys.getLast nonempty ∈ [trimEnd (keys.getLast nonempty)].filter isNameable := by
      rw [lasts]
      exact List.mem_singleton_self _
    exact (List.mem_singleton.mp (List.mem_of_mem_filter kept)).symm
  · intro still
    have counts := nameable (keys.getLast nonempty) (List.getLast_mem nonempty)
    rw [still, List.filter_singleton, counts]
    exact whole

/-- What is not null at the end of some keys is found by the path written from them, as long as the
last of them does not end in a blank. -/
theorem resolve?_write {keys : List String} (nonempty : keys ≠ [])
    (nameable : ∀ k ∈ keys, isNameable k = true) (ends : endsBlank (keys.getLast nonempty) = false)
    {m : DataModel} {v : Value} (stored : m.node? keys = some v) (solid : v.isNull = false) :
    m.resolve? (write keys) = some v := by
  have named := (segments_parse_write_iff nonempty nameable).mpr ends
  have absolute : parse (write keys) = ⟨true, keys⟩ := by
    rw [parse_write_of_nameable nonempty nameable] at named ⊢
    exact congrArg (DataPath.mk true) named
  rw [DataModel.resolve?, absolute, DataModel.lookup?_absolute]
  exact DataModel.fromRoot?_of_node? nonempty stored solid

end DataPath

namespace Snapshot

open DataPath Segment

theorem surface?_reduce_data {s : Snapshot} (stamp : Nat) {u : DataModelUpdate} {surface : Surface}
    (live : s.surface? u.surfaceId = some surface) :
    (s.reduce stamp (.dataModelUpdate u)).surface? u.surfaceId = some (surface.withData u) := by
  have aimed := (ValidMessage.addresses_iff (m := .dataModelUpdate u) rfl).mpr (Eq.refl u.surfaceId)
  rw [surface?_reduce, if_pos aimed, live]
  rfl

/-- A path written from keys that are neither empty nor a single dot is absolute. It leads over just
these keys exactly if the last of them does not end in a blank character, and then it finds what
stands under them unless that is null, and an update at it makes the node under them anew and leaves
whatever stands beside it as it was. -/
theorem written_paths_name_their_keys (keys : List String) (nonempty : keys ≠ [])
    (nameable : ∀ k ∈ keys, k ≠ "" ∧ k ≠ ".") :
    (parse (write keys)).absolute = true ∧
    ((parse (write keys)).segments = keys ↔ endsBlank (keys.getLast nonempty) = false) ∧
    (endsBlank (keys.getLast nonempty) = false →
      (∀ (m : DataModel) (v : Value), m.node? keys = some v → v.isNull = false →
        m.resolve? (write keys) = some v) ∧
      ∀ (s : Snapshot) (stamp : Nat) (u : DataModelUpdate) (surface : Surface),
        u.path = some (write keys) → s.surface? u.surfaceId = some surface →
        ∃ after, (s.reduce stamp (.dataModelUpdate u)).surface? u.surfaceId =
            some { surface with dataModel := after } ∧
          (∀ below, after.node? (keys ++ below) = (Entry.toModel u.contents).node? below) ∧
          ∀ beside, ¬ keys <+: beside → ¬ beside <+: keys →
            after.node? beside = surface.dataModel.node? beside ∧
            ((surface.dataModel.node? keys).isSome →
              after.fromRoot? beside = surface.dataModel.fromRoot? beside)) := by
  have named : ∀ k ∈ keys, isNameable k = true := by
    intro k member
    exact (isNameable_iff k).mpr (nameable k member)
  have exactly := segments_parse_write_iff nonempty named
  refine ⟨by rw [parse_write_of_nameable nonempty named], exactly, ?_⟩
  intro ends
  refine ⟨fun m v stored solid => resolve?_write nonempty named ends stored solid, ?_⟩
  intro s stamp u surface path live
  have segments : (Surface.updatePath u).segments = keys := by
    rw [Surface.updatePath, path, Option.getD_some, exactly.mpr ends]
  refine ⟨surface.dataModel.replaceAt keys (Entry.toModel u.contents), ?_, ?_, ?_⟩
  · rw [surface?_reduce_data stamp live, Surface.withData, segments]
  · intro below
    exact DataModel.node?_replaceAt_append _ _ keys below
  · intro beside pq qp
    refine ⟨DataModel.node?_replaceAt_of_apart pq qp _ _, ?_⟩
    intro stored
    obtain ⟨w, found⟩ := Option.isSome_iff_exists.mp stored
    exact DataModel.fromRoot?_replaceAt_of_apart pq qp _ _ found

/-- A surface whose data has a text under keys that must be escaped. -/
def withEscapedKeys : Surface :=
  { id := "form", root := "card", dataModel := .ofList [("a/b", .map [("c~d", .text "deep")])] }

theorem written_path_of_escaped_keys :
    ["a/b", "c~d"] ≠ [] ∧ (∀ k ∈ ["a/b", "c~d"], k ≠ "" ∧ k ≠ ".") ∧
      withEscapedKeys.dataModel.resolve? (write ["a/b", "c~d"]) = some (.text "deep") ∧
      ∃ after, ((empty.withSurface 0 withEscapedKeys).reduce 1
          (.dataModelUpdate { surfaceId := "form", path := some (write ["a/b", "c~d"]) })).surface?
          "form" = some { withEscapedKeys with dataModel := after } ∧
        after.node? ["a/b", "c~d"] = some (.map []) := by
  have nonempty : ["a/b", "c~d"] ≠ [] := by decide
  have nameable : ∀ k ∈ ["a/b", "c~d"], k ≠ "" ∧ k ≠ "." := by decide
  have ends : endsBlank (["a/b", "c~d"].getLast nonempty) = false := by
    change endsBlank "c~d" = false
    decide
  obtain ⟨found, written⟩ :=
    (written_paths_name_their_keys ["a/b", "c~d"] nonempty nameable).2.2 ends
  obtain ⟨after, live, there, -⟩ := written (empty.withSurface 0 withEscapedKeys) 1
    { surfaceId := "form", path := some (write ["a/b", "c~d"]) } withEscapedKeys rfl rfl
  exact ⟨nonempty, nameable, found withEscapedKeys.dataModel (.text "deep") rfl rfl, after, live,
    there []⟩

/-- A surface whose data has two keys that differ in a blank at the end. -/
def withTwinKeys : Surface :=
  { id := "form", root := "card",
    dataModel := .ofList [("a/b", .text "beside"), ("a/b ", .text "meant")] }

/-- The path of a key that ends in a blank is that of the key without it: it finds what stands
there, and an update at it replaces that. -/
theorem path_of_key_ending_in_blank :
    (∀ k ∈ ["a/b "], k ≠ "" ∧ k ≠ ".") ∧
      parse (write ["a/b "]) = ⟨true, ["a/b"]⟩ ∧
      withTwinKeys.dataModel.node? ["a/b "] = some (.text "meant") ∧
      withTwinKeys.dataModel.resolve? (write ["a/b "]) = some (.text "beside") ∧
      ((withTwinKeys.withData { path := some (write ["a/b "]) }).dataModel.node? ["a/b "] =
          some (.text "meant") ∧
        (withTwinKeys.withData { path := some (write ["a/b "]) }).dataModel.node? ["a/b"] =
          some (.map [])) :=
  ⟨by decide, by decide, rfl, rfl, rfl, rfl⟩

end Snapshot

end RemoteSurface
