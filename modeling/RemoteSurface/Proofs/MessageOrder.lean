import RemoteSurface.Proofs.MessageDefects
/-!
The order of violations. A check of a message goes through its cases one after another, and within
a case from what encloses to what is enclosed, so it lists what it finds in the order of the
document and nothing twice.
-/
namespace RemoteSurface

namespace Message

/-- A text that must not be blank is found blank at most once. -/
theorem ofBlank_sublist (place : Place) (text : String) :
    (Violation.ofBlank place text).Sublist [.blank place] := by
  unfold Violation.ofBlank
  split
  · exact List.Sublist.refl _
  · exact List.nil_sublist _

theorem componentViolations_sublist (i : Nat) (c : Component) :
    (componentViolations i c).Sublist
      [.blank (.componentId i), .blank (.componentType i), .blank (.templateBinding i),
        .blank (.templateComponent i)] := by
  have own := (ofBlank_sublist (.componentId i) c.id).append
    (ofBlank_sublist (.componentType i) c.type)
  unfold componentViolations
  split
  next binding id children =>
    exact own.append ((ofBlank_sublist (.templateBinding i) binding).append
      (ofBlank_sublist (.templateComponent i) id))
  next => exact own.append (List.nil_sublist _)

theorem componentViolations_pairwise (i : Nat) (c : Component) :
    (componentViolations i c).Pairwise fun v w => v.steps < w.steps := by
  apply List.Pairwise.sublist (componentViolations_sublist i c)
  simp [Violation.steps, Place.steps, List.cons_lt_cons_iff]

theorem steps_of_mem_componentViolations {i : Nat} {c : Component} {v : Violation}
    (member : v ∈ componentViolations i c) : ∃ field, v.steps = [i, field] := by
  have known := (componentViolations_sublist i c).subset member
  simp only [List.mem_cons, List.not_mem_nil, or_false] at known
  rcases known with rfl | rfl | rfl | rfl
  · exact ⟨0, rfl⟩
  · exact ⟨1, rfl⟩
  · exact ⟨2, rfl⟩
  · exact ⟨3, rfl⟩

theorem componentsViolations_pairwise (k : Nat) (cs : List Component) :
    (componentsViolations k cs).Pairwise fun v w => v.steps < w.steps := by
  induction cs generalizing k with
  | nil => exact List.Pairwise.nil
  | cons first rest ih =>
    rw [componentsViolations, List.pairwise_append]
    refine ⟨componentViolations_pairwise k first, ih (k + 1), ?_⟩
    intro v here w there
    obtain ⟨i, c, -, member⟩ := mem_componentsViolations.mp there
    obtain ⟨field, vSteps⟩ := steps_of_mem_componentViolations here
    obtain ⟨field', wSteps⟩ := steps_of_mem_componentViolations member
    rw [vSteps, wSteps]
    exact List.cons_lt_cons_iff.mpr (Or.inl (by omega))

theorem updateViolations_pairwise (u : SurfaceUpdate) :
    (updateViolations u).Pairwise fun v w => v.steps < w.steps := by
  rw [updateViolations, List.pairwise_append]
  refine ⟨?_, componentsViolations_pairwise 0 u.components, ?_⟩
  · exact List.Pairwise.sublist (ofBlank_sublist _ _) (List.pairwise_singleton _ _)
  · intro v here w there
    obtain ⟨-, rfl⟩ := mem_ofBlank.mp here
    obtain ⟨i, c, -, member⟩ := mem_componentsViolations.mp there
    obtain ⟨field, wSteps⟩ := steps_of_mem_componentViolations member
    rw [wSteps]
    exact List.nil_lt_cons _ _

theorem modelViolations_pairwise (u : DataModelUpdate) :
    (modelViolations u).Pairwise fun v w => v.steps < w.steps := by
  rw [modelViolations, List.pairwise_append]
  refine ⟨?_, Entry.listViolations_pairwise [] 0 u.contents, ?_⟩
  · exact List.Pairwise.sublist (ofBlank_sublist _ _) (List.pairwise_singleton _ _)
  · intro v here w there
    obtain ⟨-, rfl⟩ := mem_ofBlank.mp here
    obtain ⟨i, top, below, e, -, -, -, rfl⟩ := Entry.mem_listViolations.mp there
    exact List.nil_lt_cons _ _

theorem beginViolations_pairwise (b : BeginRendering) :
    (beginViolations b).Pairwise fun v w => v.steps < w.steps := by
  apply List.Pairwise.sublist ((ofBlank_sublist _ _).append (ofBlank_sublist _ _))
  simp [Violation.steps, Place.steps, List.cons_lt_cons_iff]

theorem deleteViolations_pairwise (d : DeleteSurface) :
    (deleteViolations d).Pairwise fun v w => v.steps < w.steps :=
  List.Pairwise.sublist (ofBlank_sublist _ _) (List.pairwise_singleton _ _)

theorem caseViolations_pairwise {α : Type} {check : α → List Violation}
    (ordered : ∀ a, (check a).Pairwise fun v w => v.steps < w.steps) (present : Option α) :
    (caseViolations check present).Pairwise fun v w => v.steps < w.steps := by
  cases present with
  | none => exact List.Pairwise.nil
  | some a => exact ordered a

/-- Violations of the cases before a given one, in the order of the document. -/
structure UpTo (chapter : Nat) (vs : List Violation) : Prop where
  before : ∀ v ∈ vs, v.chapter < chapter
  ordered : vs.Pairwise fun v w => v.position < w.position

/-- The next case adds its violations after those of the earlier ones. -/
theorem UpTo.append {chapter : Nat} {vs ws : List Violation} (earlier : UpTo chapter vs)
    (inCase : ∀ w ∈ ws, w.chapter = chapter)
    (ordered : ws.Pairwise fun v w => v.steps < w.steps) : UpTo (chapter + 1) (vs ++ ws) := by
  constructor
  · intro v member
    rcases List.mem_append.mp member with old | new
    · exact Nat.lt_succ_of_lt (earlier.before v old)
    · rw [inCase v new]
      exact Nat.lt_succ_self chapter
  · rw [List.pairwise_append]
    refine ⟨earlier.ordered, ?_, ?_⟩
    · refine ordered.imp_of_mem ?_
      intro v w vMember wMember stepsLess
      exact Violation.position_lt_of_steps
        ((inCase v vMember).trans (inCase w wMember).symm) stepsLess
    · intro v vMember w wMember
      apply Violation.position_lt_of_chapter
      rw [inCase w wMember]
      exact earlier.before v vMember

theorem chapter_of_mem_modelCase {m : Message} {v : Violation}
    (member : v ∈ caseViolations modelViolations m.dataModelUpdate) : v.chapter = 3 := by
  rcases mem_modelCase.mp member with found | ⟨path, e, -, -, rfl⟩
  · exact found.chapter_eq
  · rfl

theorem caseCount_upTo (m : Message) :
    UpTo 1 (if m.populatedCases.length = 1 then [] else [.caseCount m.populatedCases]) := by
  constructor
  · intro v member
    obtain ⟨-, rfl⟩ := mem_caseCount.mp member
    exact Nat.zero_lt_one
  · split
    · exact List.Pairwise.nil
    · exact List.pairwise_singleton _ _

/-- The check goes through the document in order, so it finds nothing twice. -/
theorem violations_pairwise (m : Message) :
    m.violations.Pairwise fun v w => v.position < w.position := by
  have begins := m.caseCount_upTo.append (fun w member => (mem_beginCase.mp member).chapter_eq)
    (caseViolations_pairwise beginViolations_pairwise m.beginRendering)
  have updates := begins.append (fun w member => (mem_updateCase.mp member).chapter_eq)
    (caseViolations_pairwise updateViolations_pairwise m.surfaceUpdate)
  have models := updates.append (fun w member => chapter_of_mem_modelCase member)
    (caseViolations_pairwise modelViolations_pairwise m.dataModelUpdate)
  have deletes := models.append (fun w member => (mem_deleteCase.mp member).chapter_eq)
    (caseViolations_pairwise deleteViolations_pairwise m.deleteSurface)
  exact deletes.ordered

end Message

end RemoteSurface
