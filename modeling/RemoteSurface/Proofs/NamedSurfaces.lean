import RemoteSurface.Proofs.RereadMessages
/-!
The surface that a payload names. The message that it decodes to and the payload itself are asked in
different orders, but where one case alone is populated, and is an object, nothing else can answer.
-/
namespace RemoteSurface

namespace Json

universe u

variable {α : Type u}

/-- A record whose reader keeps the id of a surface, from its key and from no other. -/
structure SetsId (set : String → Json → α → Reading α) (id : α → String) : Prop where
  named : ∀ {v a b}, set Message.surfaceKey v a = .ok b → v = .text (id b)
  kept : ∀ {k v a b}, k ≠ Message.surfaceKey → set k v a = .ok b → id b = id a

theorem SetsId.fillMembers {set : String → Json → α → Reading α} {id : α → String}
    (sets : SetsId set id) {ms : Members Json} (sorted : ms.Sorted) {a b : α}
    (filled : Json.fillMembers set ms a = .ok b) :
    match Members.find? Message.surfaceKey ms with
    | some v => v = .text (id b)
    | none => id b = id a := by
  induction ms generalizing a with
  | nil =>
    cases filled
    rfl
  | cons m rest ih =>
    obtain ⟨k, v⟩ := m
    obtain ⟨c, first, others⟩ := bind_eq_ok_iff.mp filled
    have later := ih (List.pairwise_cons.mp sorted).2 others
    by_cases here : Message.surfaceKey = k
    · subst here
      rw [sorted.find?_tail] at later
      rw [Members.find?, if_pos rfl]
      exact (sets.named first).trans (congrArg Json.text later.symm)
    · rw [Members.find?, if_neg here]
      rw [sets.kept (Ne.symm here) first] at later
      exact later

theorem eq_text_of_readText {v : Json} {s : String} (read : readText v = .ok s) : v = .text s := by
  cases v <;> cases read
  rfl

/-- What a record that was read from an object says of its surface is what the object says of it,
but for a blank id. -/
theorem SetsId.unlessBlank {set : String → Json → α → Reading α} {id : α → String}
    (sets : SetsId set id) {start : α} (blank : id start = "") {ms : Members Json}
    (sorted : ms.Sorted) {a : α} (filled : Json.fillMembers set ms start = .ok a) :
    Message.unlessBlank (some (id a)) = Message.unlessBlank (Message.rawSurface? (.object ms)) := by
  have told := sets.fillMembers sorted filled
  rw [Message.rawSurface?, Json.get?]
  cases found : Members.find? Message.surfaceKey ms with
  | none =>
    rw [found] at told
    rw [told, blank]
    rfl
  | some v =>
    rw [found] at told
    rw [told]
    rfl

end Json

namespace BeginRendering

theorem setsId : Json.SetsId setField surfaceId where
  named := by
    intro v a b set
    obtain ⟨s, read, rfl⟩ := Json.map_eq_ok_iff.mp set
    exact Json.eq_text_of_readText read
  kept := by
    intro k v a b apart set
    unfold setField at set
    split at set
    · exact absurd rfl apart
    · obtain ⟨s, -, rfl⟩ := Json.map_eq_ok_iff.mp set
      rfl
    · obtain ⟨s, -, rfl⟩ := Json.map_eq_ok_iff.mp set
      rfl
    · cases set
      rfl

end BeginRendering

namespace SurfaceUpdate

theorem setsId : Json.SetsId setField surfaceId where
  named := by
    intro v a b set
    obtain ⟨s, read, rfl⟩ := Json.map_eq_ok_iff.mp set
    exact Json.eq_text_of_readText read
  kept := by
    intro k v a b apart set
    unfold setField at set
    split at set
    · exact absurd rfl apart
    · obtain ⟨s, -, rfl⟩ := Json.map_eq_ok_iff.mp set
      rfl
    · cases set
      rfl

end SurfaceUpdate

namespace DataModelUpdate

theorem setsId : Json.SetsId setField surfaceId where
  named := by
    intro v a b set
    obtain ⟨s, read, rfl⟩ := Json.map_eq_ok_iff.mp set
    exact Json.eq_text_of_readText read
  kept := by
    intro k v a b apart set
    unfold setField at set
    split at set
    · exact absurd rfl apart
    · obtain ⟨s, -, rfl⟩ := Json.map_eq_ok_iff.mp set
      rfl
    · obtain ⟨s, -, rfl⟩ := Json.map_eq_ok_iff.mp set
      rfl
    · cases set
      rfl

end DataModelUpdate

namespace DeleteSurface

theorem setsId : Json.SetsId setField surfaceId where
  named := by
    intro v a b set
    obtain ⟨s, read, rfl⟩ := Json.map_eq_ok_iff.mp set
    exact Json.eq_text_of_readText read
  kept := by
    intro k v a b apart set
    unfold setField at set
    split at set
    · exact absurd rfl apart
    · cases set
      rfl

end DeleteSurface

namespace Message

/-- Among ascending members that are null but for one, that one answers. -/
theorem firstSurface?_eq {ms : Members Json} (sorted : ms.Sorted) {k : String} {v : Json}
    (found : Members.find? k ms = some v) (others : ∀ o ∈ ms, o.1 ≠ k → o.2 = .null) :
    firstSurface? ms = rawSurface? v := by
  induction ms with
  | nil => cases found
  | cons m rest ih =>
    obtain ⟨j, w⟩ := m
    obtain ⟨here, later⟩ := List.forall_mem_cons.mp others
    rw [firstSurface?, List.findSome?_cons]
    by_cases same : k = j
    · subst same
      rw [Members.find?, if_pos rfl] at found
      obtain rfl := Option.some.inj found
      have silent : rest.findSome? (fun o => rawSurface? o.2) = none := by
        rw [List.findSome?_eq_none_iff]
        intro o member
        have above := (List.pairwise_cons.mp sorted).1 o member
        rw [later o member (Ne.symm (Members.key_ne_of_lt above))]
        rfl
      cases named : rawSurface? w with
      | none => exact silent
      | some id => rfl
    · rw [Members.find?, if_neg same] at found
      have null : w = .null := here (Ne.symm same)
      rw [null]
      exact ih (List.pairwise_cons.mp sorted).2 found later

theorem readOptional_eq_none {α : Type} {read : Json → Json.Reading α} {v : Json}
    (nothing : Json.readOptional read v = .ok none) : v = .null := by
  cases v with
  | null => rfl
  | _ =>
    obtain ⟨a, -, same⟩ := Json.map_eq_ok_iff.mp nothing
    cases same

theorem mem_populatedCases (m : Message) (k : String) :
    k ∈ m.populatedCases ↔
      (m.beginRendering.isSome ∧ k = "beginRendering") ∨ (m.surfaceUpdate.isSome ∧ k = "surfaceUpdate") ∨
      (m.dataModelUpdate.isSome ∧ k = "dataModelUpdate") ∨ (m.deleteSurface.isSome ∧ k = "deleteSurface") ∨
      k ∈ m.otherCases := by
  simp only [populatedCases, List.mem_append, List.mem_ite_nil_right, List.mem_singleton, or_assoc]

theorem mem_otherCases {m : Message} {o : String × Json} (member : o ∈ m.other.members)
    (solid : o.2 ≠ .null) : o.1 ∈ m.otherCases := by
  have populated : o.2.isNull = false := by
    cases held : o.2 with
    | null => exact absurd held solid
    | _ => rfl
  exact List.mem_map.mpr ⟨o, List.mem_filter.mpr ⟨member, by simp [populated]⟩, rfl⟩

theorem Tells.isSome {α : Type} {read : Json → Json.Reading α} {k : String} {ms : Members Json}
    {c : Option α} (tells : Tells read k ms none c) {v : Json}
    (found : Members.find? k ms = some v) (solid : v ≠ .null) : c.isSome := by
  rw [Tells, found] at tells
  cases c with
  | none => exact absurd (readOptional_eq_none tells) solid
  | some a => rfl

/-- A member that is not null is a populated case. -/
theorem populated_of_find? {ms : Members Json} (sorted : ms.Sorted) {m : Message}
    (filled : Json.fillMembers setCase ms {} = .ok m) {k : String} {v : Json}
    (found : Members.find? k ms = some v) (solid : v ≠ .null) : k ∈ m.populatedCases := by
  obtain ⟨begins, updates, models, deletes, kept⟩ := (fillMembers_setCase_iff sorted {} m).mp filled
  rw [mem_populatedCases]
  by_cases known : k ∈ caseNames
  · simp only [caseNames, List.mem_cons, List.not_mem_nil, or_false] at known
    rcases known with rfl | rfl | rfl | rfl
    · exact .inl ⟨begins.isSome found solid, rfl⟩
    · exact .inr (.inl ⟨updates.isSome found solid, rfl⟩)
    · exact .inr (.inr (.inl ⟨models.isSome found solid, rfl⟩))
    · exact .inr (.inr (.inr (.inl ⟨deletes.isSome found solid, rfl⟩)))
  · have stored : m.other.find? k = some v := by
      rw [kept]
      exact (find?_putAll_unknown sorted k).trans ((if_neg known).trans found)
    have member : (k, v) ∈ m.other.members := Members.mem_of_find? stored
    exact .inr (.inr (.inr (.inr (mem_otherCases member solid))))

theorem Tells.read_object {α : Type} {read : Json → Json.Reading α} {k : String}
    {ms : Members Json} {c : Option α} (tells : Tells read k ms none c) {inner : Members Json}
    (found : Members.find? k ms = some (.object inner)) :
    ∃ a, c = some a ∧ read (.object inner) = .ok a := by
  rw [Tells, found] at tells
  obtain ⟨a, known, rfl⟩ := Json.map_eq_ok_iff.mp tells
  exact ⟨a, rfl, known⟩

theorem eq_none_of_single {m : Message} {k : String} (single : m.populatedCases = [k]) :
    (k ≠ "beginRendering" → m.beginRendering = none) ∧
    (k ≠ "surfaceUpdate" → m.surfaceUpdate = none) ∧
    (k ≠ "dataModelUpdate" → m.dataModelUpdate = none) ∧
    (k ≠ "deleteSurface" → m.deleteSurface = none) ∧
    ∀ o ∈ m.other.members, o.1 ≠ k → o.2 = .null := by
  have only (name : String) (populated : name ∈ m.populatedCases) : k = name := by
    rw [single] at populated
    exact (List.mem_singleton.mp populated).symm
  simp only [mem_populatedCases] at only
  refine ⟨?_, ?_, ?_, ?_, ?_⟩
  · intro apart
    by_contra held
    exact apart (only _ (.inl ⟨Option.isSome_iff_ne_none.mpr held, rfl⟩))
  · intro apart
    by_contra held
    exact apart (only _ (.inr (.inl ⟨Option.isSome_iff_ne_none.mpr held, rfl⟩)))
  · intro apart
    by_contra held
    exact apart (only _ (.inr (.inr (.inl ⟨Option.isSome_iff_ne_none.mpr held, rfl⟩))))
  · intro apart
    by_contra held
    exact apart (only _ (.inr (.inr (.inr (.inl ⟨Option.isSome_iff_ne_none.mpr held, rfl⟩)))))
  · intro o member apart
    by_contra solid
    exact apart (only _ (.inr (.inr (.inr (.inr (mem_otherCases member solid)))))).symm

/-- What a message says of its surface is what its one case says, if that is an object. -/
theorem surfaceId?_of_single {ms : Members Json} (sorted : ms.Sorted) {m : Message}
    (filled : Json.fillMembers setCase ms {} = .ok m) {k : String} (single : m.populatedCases = [k])
    {inner : Members Json} (found : Members.find? k ms = some (.object inner))
    (ascending : inner.Sorted) : m.surfaceId? = unlessBlank (rawSurface? (.object inner)) := by
  obtain ⟨begins, updates, models, deletes, kept⟩ := (fillMembers_setCase_iff sorted {} m).mp filled
  obtain ⟨noBegin, noUpdate, noModel, noDelete, others⟩ := eq_none_of_single single
  by_cases known : k ∈ caseNames
  · simp only [caseNames, List.mem_cons, List.not_mem_nil, or_false] at known
    rcases known with rfl | rfl | rfl | rfl
    · obtain ⟨b, held, read⟩ := begins.read_object found
      rw [← BeginRendering.setsId.unlessBlank rfl ascending read]
      simp [surfaceId?, held]
    · obtain ⟨u, held, read⟩ := updates.read_object found
      rw [← SurfaceUpdate.setsId.unlessBlank rfl ascending read]
      simp [surfaceId?, held, noBegin]
    · obtain ⟨u, held, read⟩ := models.read_object found
      rw [← DataModelUpdate.setsId.unlessBlank rfl ascending read]
      simp [surfaceId?, held, noBegin, noUpdate]
    · obtain ⟨d, held, read⟩ := deletes.read_object found
      rw [← DeleteSurface.setsId.unlessBlank rfl ascending read]
      simp [surfaceId?, held, noBegin, noUpdate, noModel]
  · have stored : m.other.find? k = some (.object inner) := by
      rw [kept]
      exact (find?_putAll_unknown sorted k).trans ((if_neg known).trans found)
    rw [← firstSurface?_eq m.other.sorted stored others]
    simp only [caseNames, List.mem_cons, List.not_mem_nil, or_false, not_or] at known
    obtain ⟨begin, update, model, delete⟩ := known
    simp [surfaceId?, noBegin begin, noUpdate update, noModel model, noDelete delete]

/-- Where one case alone of a payload is populated, and is an object, the message that the payload
decodes to and the payload itself name the same surface, whatever the case is and whatever keys hold
null beside it. Neither names a blank surface, whatever the payload is. -/
theorem message_and_payload_name_one_surface :
    (∀ payload m ms k inner, decode payload = .ok m → Json.parse? payload = some (.object ms) →
      m.populatedCases = [k] → Members.find? k ms = some (.object inner) →
      m.surfaceId? = surfaceHint? payload) ∧
    (∀ (m : Message) id, m.surfaceId? = some id → Text.isBlank id = false) ∧
    ∀ payload id, surfaceHint? payload = some id → Text.isBlank id = false := by
  refine ⟨?_, ?_, ?_⟩
  · intro payload m ms k inner decoded parsed single found
    have read : ofJson (.object ms) = .ok m := by
      simpa [decode, parsed] using decoded
    obtain ⟨-, sorted, fits⟩ := Json.fits_of_parse? parsed
    obtain ⟨-, ascending, -⟩ := Json.membersFit_iff.mp fits _ (Members.mem_of_find? found)
    have filled := fillMembers_of_ofJson read
    have others : ∀ o ∈ ms, o.1 ≠ k → o.2 = .null := by
      intro o member apart
      by_contra solid
      have populated := populated_of_find? sorted filled (sorted.find?_of_mem member) solid
      rw [single] at populated
      exact apart (List.mem_singleton.mp populated)
    rw [surfaceId?_of_single sorted filled single found ascending, surfaceHint?, parsed]
    exact congrArg unlessBlank (firstSurface?_eq sorted found others).symm
  · intro m id named
    exact filled_of_unlessBlank named
  · intro payload id hinted
    unfold surfaceHint? at hinted
    split at hinted
    · exact filled_of_unlessBlank hinted
    · cases hinted

/-- A deletion with a field of no known name, beside two keys that hold null. -/
def deletingMembers : Members Json :=
  [("beginRendering", .null),
    ("deleteSurface", .object [("force", .bool true), ("surfaceId", .text "s1")]), ("note", .null)]

def deletingMessage : Message :=
  { deleteSurface := some ⟨"s1"⟩, other := ⟨[("note", .null)], by decide⟩ }

theorem deletion_beside_nulls_names_its_surface :
    decode (Json.object deletingMembers).render = .ok deletingMessage ∧
      deletingMessage.populatedCases = ["deleteSurface"] ∧
      deletingMessage.surfaceId? = surfaceHint? (Json.object deletingMembers).render ∧
      deletingMessage.surfaceId? = some "s1" ∧ Text.isBlank "s1" = false := by
  have fits : (Json.object deletingMembers).Fits Source.maxDepth :=
    ⟨by decide, by decide, trivial, ⟨by decide, by decide, trivial, trivial, trivial⟩, trivial,
      trivial⟩
  have parsed := Json.parse?_render fits rfl
  have decoded : decode (Json.object deletingMembers).render = .ok deletingMessage := by
    rw [decode, parsed]
    rfl
  have named := message_and_payload_name_one_surface.1 _ _ _ _ _ decoded parsed rfl rfl
  exact ⟨decoded, rfl, named, rfl,
    message_and_payload_name_one_surface.2.1 deletingMessage "s1" rfl⟩

end Message

end RemoteSurface
