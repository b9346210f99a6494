import RemoteSurface.Proofs.EntryDefects
/-!
Defects of messages, said without the check that finds them: a wrong number of cases, a blank text
where a case that is there requires one, and an entry at any depth that does not set exactly one
variant. The check finds these and nothing else.
-/
namespace RemoteSurface

namespace Message

/-- The component at an index of a surface update. -/
def component? (m : Message) (index : Nat) : Option Component :=
  m.surfaceUpdate.bind fun u => u.components[index]?

/-- The binding and the component id of the repeated children at an index of a surface update. -/
def template? (m : Message) (index : Nat) : Option (String × String) :=
  (m.component? index).bind fun c =>
    match c.children with
    | some (.repeated binding id) => some (binding, id)
    | _ => none

/-- The text that stands at a place of a message, if the message has that place. -/
def textAt? (m : Message) : Place → Option String
  | .beginSurface => m.beginRendering.map (·.surfaceId)
  | .beginRoot => m.beginRendering.map (·.root)
  | .updateSurface => m.surfaceUpdate.map (·.surfaceId)
  | .componentId i => (m.component? i).map (·.id)
  | .componentType i => (m.component? i).map (·.type)
  | .templateBinding i => (m.template? i).map Prod.fst
  | .templateComponent i => (m.template? i).map Prod.snd
  | .modelSurface => m.dataModelUpdate.map (·.surfaceId)
  | .deleteSurface => m.deleteSurface.map (·.surfaceId)
  | .actionSurface => none

/-- The entry that positions lead to in the data update of a message. -/
def entryAt? (m : Message) : List Nat → Option Entry
  | [] => none
  | i :: below =>
    m.dataModelUpdate.bind fun u => u.contents[i]?.bind fun top => top.descend? below

/-- How many cases a message populates: the known ones that are there, and the other members that
are not null. -/
def caseNumber (m : Message) : Nat :=
  [m.beginRendering.isSome, m.surfaceUpdate.isSome, m.dataModelUpdate.isSome,
    m.deleteSurface.isSome].count true + m.other.members.countP fun o => !o.2.isNull

/-- What can be wrong with a message. -/
inductive Defect (m : Message) : Violation → Prop where
  | cases (number : m.caseNumber ≠ 1) : Defect m (.caseCount m.populatedCases)
  | blank {place : Place} {text : String} (required : m.textAt? place = some text)
      (missing : Text.isBlank text = true) : Defect m (.blank place)
  | variants {path : List Nat} {e : Entry} (found : m.entryAt? path = some e)
      (number : e.setCount ≠ 1) : Defect m (.variantCount path e.key e.setCount)

/-- A blank text at a place of one case. -/
def BlankIn (m : Message) (chapter : Nat) (v : Violation) : Prop :=
  ∃ place text, place.chapter = chapter ∧ m.textAt? place = some text ∧
    Text.isBlank text = true ∧ v = .blank place

theorem BlankIn.chapter_eq {m : Message} {chapter : Nat} {v : Violation}
    (found : m.BlankIn chapter v) : v.chapter = chapter := by
  obtain ⟨place, text, inCase, -, -, rfl⟩ := found
  exact inCase

theorem BlankIn.defect {m : Message} {chapter : Nat} {v : Violation}
    (found : m.BlankIn chapter v) : m.Defect v := by
  obtain ⟨place, text, -, required, missing, rfl⟩ := found
  exact .blank required missing

/-- A case without texts has no blank ones. -/
theorem not_blankIn {m : Message} {chapter : Nat} {v : Violation}
    (absent : ∀ place : Place, place.chapter = chapter → m.textAt? place = none) :
    ¬ m.BlankIn chapter v := by
  rintro ⟨place, text, inCase, required, -, -⟩
  rw [absent place inCase] at required
  cases required

theorem mem_ofBlank {place : Place} {text : String} {v : Violation} :
    v ∈ Violation.ofBlank place text ↔ Text.isBlank text = true ∧ v = .blank place := by
  unfold Violation.ofBlank
  split
  next blank => simp [blank]
  next filled => simp [filled]

theorem mem_beginCase {m : Message} {v : Violation} :
    v ∈ caseViolations beginViolations m.beginRendering ↔ m.BlankIn 1 v := by
  cases present : m.beginRendering with
  | none =>
    have absent : ∀ place : Place, place.chapter = 1 → m.textAt? place = none := by
      intro place inCase
      cases place <;> simp_all [Place.chapter, textAt?]
    exact iff_of_false List.not_mem_nil (not_blankIn absent)
  | some b =>
    rw [caseViolations, beginViolations, List.mem_append, mem_ofBlank, mem_ofBlank]
    constructor
    · rintro (⟨blank, rfl⟩ | ⟨blank, rfl⟩)
      · exact ⟨.beginSurface, b.surfaceId, rfl, by rw [textAt?, present]; rfl, blank, rfl⟩
      · exact ⟨.beginRoot, b.root, rfl, by rw [textAt?, present]; rfl, blank, rfl⟩
    · rintro ⟨place, text, inCase, required, blank, rfl⟩
      cases place <;> simp_all [Place.chapter, textAt?]

theorem mem_componentViolations {i : Nat} {c : Component} {v : Violation} :
    v ∈ componentViolations i c ↔
      (Text.isBlank c.id = true ∧ v = .blank (.componentId i)) ∨
      (Text.isBlank c.type = true ∧ v = .blank (.componentType i)) ∨
      ∃ binding id, c.children = some (.repeated binding id) ∧
        ((Text.isBlank binding = true ∧ v = .blank (.templateBinding i)) ∨
          (Text.isBlank id = true ∧ v = .blank (.templateComponent i))) := by
  rw [componentViolations, List.mem_append, List.mem_append, mem_ofBlank, mem_ofBlank, or_assoc]
  cases c.children with
  | none => simp
  | some spec =>
    cases spec with
    | listed ids => simp
    | repeated binding id => simp [mem_ofBlank, and_assoc]

theorem mem_componentsViolations {k : Nat} {cs : List Component} {v : Violation} :
    v ∈ componentsViolations k cs ↔
      ∃ i c, cs[i]? = some c ∧ v ∈ componentViolations (k + i) c := by
  induction cs generalizing k with
  | nil => simp [componentsViolations]
  | cons first rest ih =>
    rw [componentsViolations, List.mem_append, ih]
    constructor
    · rintro (here | ⟨i, c, found, there⟩)
      · exact ⟨0, first, rfl, here⟩
      · refine ⟨i + 1, c, found, ?_⟩
        rwa [Nat.add_comm i 1, ← Nat.add_assoc]
    · rintro ⟨i, c, found, member⟩
      cases i with
      | zero =>
        obtain rfl : first = c := Option.some.inj found
        exact Or.inl member
      | succ i =>
        refine Or.inr ⟨i, c, found, ?_⟩
        rwa [Nat.add_comm i 1, ← Nat.add_assoc] at member

theorem mem_updateViolations {u : SurfaceUpdate} {v : Violation} :
    v ∈ updateViolations u ↔
      (Text.isBlank u.surfaceId = true ∧ v = .blank .updateSurface) ∨
      ∃ i c, u.components[i]? = some c ∧ v ∈ componentViolations i c := by
  rw [updateViolations, List.mem_append, mem_ofBlank, mem_componentsViolations]
  simp only [Nat.zero_add]

theorem template?_eq_some {m : Message} {i : Nat} {binding id : String} :
    m.template? i = some (binding, id) ↔
      ∃ c, m.component? i = some c ∧ c.children = some (.repeated binding id) := by
  rw [template?, Option.bind_eq_some_iff]
  constructor
  · rintro ⟨c, found, shape⟩
    refine ⟨c, found, ?_⟩
    split at shape
    · next children =>
      obtain ⟨rfl, rfl⟩ := Prod.mk.inj (Option.some.inj shape)
      exact children
    · exact absurd shape (by simp)
  · rintro ⟨c, found, children⟩
    exact ⟨c, found, by rw [children]⟩

theorem blankIn_of_component {m : Message} {i : Nat} {c : Component} {v : Violation}
    (found : m.component? i = some c) (member : v ∈ componentViolations i c) :
    m.BlankIn 2 v := by
  rcases mem_componentViolations.mp member with
    ⟨blank, rfl⟩ | ⟨blank, rfl⟩ | ⟨binding, id, children, ⟨blank, rfl⟩ | ⟨blank, rfl⟩⟩
  · exact ⟨.componentId i, c.id, rfl, by rw [textAt?, found]; rfl, blank, rfl⟩
  · exact ⟨.componentType i, c.type, rfl, by rw [textAt?, found]; rfl, blank, rfl⟩
  · have here := template?_eq_some.mpr ⟨c, found, children⟩
    exact ⟨.templateBinding i, binding, rfl, by rw [textAt?, here]; rfl, blank, rfl⟩
  · have here := template?_eq_some.mpr ⟨c, found, children⟩
    exact ⟨.templateComponent i, id, rfl, by rw [textAt?, here]; rfl, blank, rfl⟩

theorem mem_updateCase {m : Message} {v : Violation} :
    v ∈ caseViolations updateViolations m.surfaceUpdate ↔ m.BlankIn 2 v := by
  cases present : m.surfaceUpdate with
  | none =>
    have absent : ∀ place : Place, place.chapter = 2 → m.textAt? place = none := by
      intro place inCase
      cases place <;> simp_all [Place.chapter, textAt?, component?, template?]
    exact iff_of_false List.not_mem_nil (not_blankIn absent)
  | some u =>
    have atIndex : ∀ i, m.component? i = u.components[i]? := by
      intro i
      rw [component?, present]
      rfl
    rw [caseViolations, mem_updateViolations]
    constructor
    · rintro (⟨blank, rfl⟩ | ⟨i, c, found, member⟩)
      · exact ⟨.updateSurface, u.surfaceId, rfl, by rw [textAt?, present]; rfl, blank, rfl⟩
      · exact blankIn_of_component ((atIndex i).trans found) member
    · rintro ⟨place, text, inCase, required, blank, rfl⟩
      cases place with
      | updateSurface =>
        rw [textAt?, present] at required
        obtain rfl : u.surfaceId = text := Option.some.inj required
        exact Or.inl ⟨blank, rfl⟩
      | componentId i =>
        obtain ⟨c, found, rfl⟩ := Option.map_eq_some_iff.mp required
        refine Or.inr ⟨i, c, (atIndex i).symm.trans found, ?_⟩
        exact mem_componentViolations.mpr (Or.inl ⟨blank, rfl⟩)
      | componentType i =>
        obtain ⟨c, found, rfl⟩ := Option.map_eq_some_iff.mp required
        refine Or.inr ⟨i, c, (atIndex i).symm.trans found, ?_⟩
        exact mem_componentViolations.mpr (Or.inr (Or.inl ⟨blank, rfl⟩))
      | templateBinding i =>
        obtain ⟨⟨binding, id⟩, here, rfl⟩ := Option.map_eq_some_iff.mp required
        obtain ⟨c, found, children⟩ := template?_eq_some.mp here
        refine Or.inr ⟨i, c, (atIndex i).symm.trans found, ?_⟩
        exact mem_componentViolations.mpr
          (Or.inr (Or.inr ⟨binding, id, children, Or.inl ⟨blank, rfl⟩⟩))
      | templateComponent i =>
        obtain ⟨⟨binding, id⟩, here, rfl⟩ := Option.map_eq_some_iff.mp required
        obtain ⟨c, found, children⟩ := template?_eq_some.mp here
        refine Or.inr ⟨i, c, (atIndex i).symm.trans found, ?_⟩
        exact mem_componentViolations.mpr
          (Or.inr (Or.inr ⟨binding, id, children, Or.inr ⟨blank, rfl⟩⟩))
      | beginSurface => exact absurd inCase (by decide)
      | beginRoot => exact absurd inCase (by decide)
      | modelSurface => exact absurd inCase (by decide)
      | deleteSurface => exact absurd inCase (by decide)
      | actionSurface => exact absurd inCase (by decide)

theorem mem_modelViolations {u : DataModelUpdate} {v : Violation} :
    v ∈ modelViolations u ↔
      (Text.isBlank u.surfaceId = true ∧ v = .blank .modelSurface) ∨
      ∃ i top below e, u.contents[i]? = some top ∧ top.descend? below = some e ∧
        e.setCount ≠ 1 ∧ v = .variantCount (i :: below) e.key e.setCount := by
  rw [modelViolations, List.mem_append, mem_ofBlank, Entry.mem_listViolations]
  simp only [Nat.zero_add, List.nil_append]

theorem mem_modelCase {m : Message} {v : Violation} :
    v ∈ caseViolations modelViolations m.dataModelUpdate ↔
      m.BlankIn 3 v ∨ ∃ path e, m.entryAt? path = some e ∧ e.setCount ≠ 1 ∧
        v = .variantCount path e.key e.setCount := by
  cases present : m.dataModelUpdate with
  | none =>
    have absent : ∀ place : Place, place.chapter = 3 → m.textAt? place = none := by
      intro place inCase
      cases place <;> simp_all [Place.chapter, textAt?]
    have noEntry : ∀ path, m.entryAt? path = none := by
      intro path
      cases path <;> simp [entryAt?, present]
    apply iff_of_false List.not_mem_nil
    rintro (found | ⟨path, e, reached, -, -⟩)
    · exact not_blankIn absent found
    · rw [noEntry path] at reached
      cases reached
  | some u =>
    rw [caseViolations, mem_modelViolations]
    constructor
    · rintro (⟨blank, rfl⟩ | ⟨i, top, below, e, atTop, found, number, rfl⟩)
      · exact Or.inl
          ⟨.modelSurface, u.surfaceId, rfl, by rw [textAt?, present]; rfl, blank, rfl⟩
      · have reached : m.entryAt? (i :: below) = some e := by
          rw [entryAt?, present, Option.bind_some, atTop]
          exact found
        exact Or.inr ⟨i :: below, e, reached, number, rfl⟩
    · rintro (⟨place, text, inCase, required, blank, rfl⟩ | ⟨path, e, reached, number, rfl⟩)
      · cases place <;> simp_all [Place.chapter, textAt?]
      · cases path with
        | nil => exact absurd reached (by simp [entryAt?])
        | cons i below =>
          rw [entryAt?, present, Option.bind_some] at reached
          obtain ⟨top, atTop, found⟩ := Option.bind_eq_some_iff.mp reached
          exact Or.inr ⟨i, top, below, e, atTop, found, number, rfl⟩

theorem mem_deleteCase {m : Message} {v : Violation} :
    v ∈ caseViolations deleteViolations m.deleteSurface ↔ m.BlankIn 4 v := by
  cases present : m.deleteSurface with
  | none =>
    have absent : ∀ place : Place, place.chapter = 4 → m.textAt? place = none := by
      intro place inCase
      cases place <;> simp_all [Place.chapter, textAt?]
    exact iff_of_false List.not_mem_nil (not_blankIn absent)
  | some d =>
    rw [caseViolations, deleteViolations, mem_ofBlank]
    constructor
    · rintro ⟨blank, rfl⟩
      exact ⟨.deleteSurface, d.surfaceId, rfl, by rw [textAt?, present]; rfl, blank, rfl⟩
    · rintro ⟨place, text, inCase, required, blank, rfl⟩
      cases place <;> simp_all [Place.chapter, textAt?]

theorem length_populatedCases (m : Message) : m.populatedCases.length = m.caseNumber := by
  have others : m.otherCases.length = m.other.members.countP fun o => !o.2.isNull := by
    rw [otherCases, List.length_map, List.countP_eq_length_filter]
  simp only [populatedCases, caseNumber, List.length_append, others]
  cases m.beginRendering <;> cases m.surfaceUpdate <;> cases m.dataModelUpdate <;>
    cases m.deleteSurface <;> rfl

theorem mem_caseCount {m : Message} {v : Violation} :
    v ∈ (if m.populatedCases.length = 1 then [] else [Violation.caseCount m.populatedCases]) ↔
      m.caseNumber ≠ 1 ∧ v = .caseCount m.populatedCases := by
  rw [length_populatedCases]
  split
  next one => simp [one]
  next wrong => simp [wrong]

/-- The check finds the defects of a message and nothing else. -/
theorem mem_violations {m : Message} {v : Violation} : v ∈ m.violations ↔ m.Defect v := by
  rw [violations, List.mem_append, List.mem_append, List.mem_append, List.mem_append,
    mem_caseCount, mem_beginCase, mem_updateCase, mem_modelCase, mem_deleteCase]
  constructor
  · rintro ((((⟨number, rfl⟩ | found) | found) | found | ⟨path, e, reached, number, rfl⟩) | found)
    · exact .cases number
    · exact found.defect
    · exact found.defect
    · exact found.defect
    · exact .variants reached number
    · exact found.defect
  · intro defect
    cases defect with
    | cases number => exact Or.inl (Or.inl (Or.inl (Or.inl ⟨number, rfl⟩)))
    | @variants path e reached number =>
      exact Or.inl (Or.inr (Or.inr ⟨path, e, reached, number, rfl⟩))
    | @blank place text required missing =>
      have found : ∀ chapter, place.chapter = chapter → m.BlankIn chapter (.blank place) :=
        fun chapter inCase => ⟨place, text, inCase, required, missing, rfl⟩
      cases place with
      | beginSurface => exact Or.inl (Or.inl (Or.inl (Or.inr (found 1 rfl))))
      | beginRoot => exact Or.inl (Or.inl (Or.inl (Or.inr (found 1 rfl))))
      | updateSurface => exact Or.inl (Or.inl (Or.inr (found 2 rfl)))
      | componentId i => exact Or.inl (Or.inl (Or.inr (found 2 rfl)))
      | componentType i => exact Or.inl (Or.inl (Or.inr (found 2 rfl)))
      | templateBinding i => exact Or.inl (Or.inl (Or.inr (found 2 rfl)))
      | templateComponent i => exact Or.inl (Or.inl (Or.inr (found 2 rfl)))
      | modelSurface => exact Or.inl (Or.inr (Or.inl (found 3 rfl)))
      | deleteSurface => exact Or.inr (found 4 rfl)
      | actionSurface => exact absurd required (by simp [textAt?])

end Message

end RemoteSurface
