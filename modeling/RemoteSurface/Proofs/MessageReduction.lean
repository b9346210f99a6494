import RemoteSurface.Proofs.MessageLabels
import RemoteSurface.Proofs.MessageOrder
import RemoteSurface.Proofs.TableLaws
/-!
Reduction of messages. A message without defects populates one case, and is reduced to that case
with its content; of any other message the answer is the list of its defects.
-/
namespace RemoteSurface

namespace Violation

/-- The label of a nested entry goes on from the label of the entry around it. -/
theorem entryLabel_append {path : List Nat} (inside : path ≠ []) (i : Nat) :
    entryLabel (path ++ [i]) = entryLabel path ++ ".valueMap[" ++ toString i ++ "]" := by
  cases path with
  | nil => exact absurd rfl inside
  | cons first nested => simp only [List.cons_append, entryLabel, List.foldl_append, List.foldl]

theorem message_caseCount (cases : List String) :
    (caseCount cases).message =
      "message must populate exactly one case, found " ++ toString cases.length ++ " (" ++
        (if cases = [] then "none" else ", ".intercalate cases) ++ ")" := by
  unfold message
  simp only [List.isEmpty_iff]

theorem message_blank (place : Place) :
    (blank place).message = (Address.ofPlace place).spell ++ " must not be blank" := by
  rw [Address.spell_ofPlace]
  rfl

theorem message_variantCount (path : List Nat) (key : String) (count : Nat) :
    (variantCount path key count).message =
      (Address.ofEntry path).spell ++ " (key '" ++ key ++
        "') must set exactly one value variant, found " ++ toString count := by
  rw [Address.spell_ofEntry]
  rfl

end Violation

namespace ValidMessage

/-- Whether a message populates the case that it was reduced to, with the same content. -/
def IsCaseOf (m : Message) : ValidMessage → Prop
  | .beginRendering b => m.beginRendering = some b
  | .surfaceUpdate u => m.surfaceUpdate = some u
  | .dataModelUpdate u => m.dataModelUpdate = some u
  | .deleteSurface d => m.deleteSurface = some d
  | .unknown case => ∃ v, m.other.find? case = some v ∧ v.isNull = false

theorem eq_singleton_of_head {names : List String} {name : String} (single : names.length = 1)
    (first : names.head? = some name) : names = [name] := by
  obtain ⟨only, rfl⟩ := List.length_eq_one_iff.mp single
  rw [List.head?_cons] at first
  rw [Option.some.inj first]

theorem other_of_mem_otherCases {m : Message} {name : String} (member : name ∈ m.otherCases) :
    ∃ v, m.other.find? name = some v ∧ v.isNull = false := by
  obtain ⟨⟨k, v⟩, kept, rfl⟩ := List.mem_map.mp member
  obtain ⟨known, populated⟩ := List.mem_filter.mp kept
  refine ⟨v, m.other.sorted.find?_of_mem known, ?_⟩
  simpa using populated

/-- The case that a message is reduced to is the first that it populates. -/
theorem head_populatedCases {m : Message} (single : m.populatedCases.length = 1) :
    m.populatedCases.head? = some (firstCase m).caseName ∧ (firstCase m).IsCaseOf m := by
  unfold Message.populatedCases at single ⊢
  unfold firstCase
  cases begins : m.beginRendering with
  | some b => exact ⟨rfl, begins⟩
  | none =>
    cases updates : m.surfaceUpdate with
    | some u => exact ⟨rfl, updates⟩
    | none =>
      cases models : m.dataModelUpdate with
      | some u => exact ⟨rfl, models⟩
      | none =>
        cases deletes : m.deleteSurface with
        | some d => exact ⟨rfl, deletes⟩
        | none =>
          rw [begins, updates, models, deletes] at single
          obtain ⟨name, only⟩ := List.length_eq_one_iff.mp single
          have others : m.otherCases = [name] := only
          have member : name ∈ m.otherCases := by rw [others]; exact List.mem_cons_self
          rw [others]
          exact ⟨rfl, other_of_mem_otherCases member⟩

theorem violations_eq_nil_iff (m : Message) : m.violations = [] ↔ ∀ v, ¬ m.Defect v := by
  rw [List.eq_nil_iff_forall_not_mem]
  simp only [Message.mem_violations]

theorem ofMessage_eq_ok {m : Message} {valid : ValidMessage} (reduced : ofMessage m = .ok valid) :
    (∀ v, ¬ m.Defect v) ∧ valid = firstCase m := by
  unfold ofMessage at reduced
  split at reduced
  next clean => exact ⟨(violations_eq_nil_iff m).mp clean, (Except.ok.inj reduced).symm⟩
  next => cases reduced

theorem ofMessage_isCaseOf {m : Message} {valid : ValidMessage}
    (reduced : ofMessage m = .ok valid) : valid.IsCaseOf m := by
  obtain ⟨clean, rfl⟩ := ofMessage_eq_ok reduced
  have single : m.caseNumber = 1 := by
    by_cases one : m.caseNumber = 1
    · exact one
    · exact absurd (.cases one) (clean _)
  rw [← Message.length_populatedCases] at single
  exact (head_populatedCases single).2

theorem ofMessage_eq_error {m : Message} {found : List Violation}
    (refused : ofMessage m = .error found) : found = m.violations := by
  unfold ofMessage at refused
  split at refused
  next => cases refused
  next => exact (Except.error.inj refused).symm

/-- The check of a message finds exactly its defects, each once and in the order of the document.
Their texts name the cases that were counted, or the way in the document to the blank text or to the
entry, which has its key and its number of variants besides. A message is well formed iff it has no
defect, and is then reduced to the only case it populates, with its content; otherwise what the
check found is the answer. -/
theorem violations_are_the_defects (m : Message) :
    (∀ v, v ∈ m.violations ↔ m.Defect v) ∧
    (m.violations.Pairwise fun v w => v.position < w.position) ∧
    (∀ i, Violation.entryLabel [i] = "dataModelUpdate.contents[" ++ toString i ++ "]") ∧
    (∀ path i, path ≠ [] → Violation.entryLabel (path ++ [i]) =
      Violation.entryLabel path ++ ".valueMap[" ++ toString i ++ "]") ∧
    (∀ cases, (Violation.caseCount cases).message =
      "message must populate exactly one case, found " ++ toString cases.length ++ " (" ++
        (if cases = [] then "none" else ", ".intercalate cases) ++ ")") ∧
    (∀ place, (Violation.blank place).message =
      (Address.ofPlace place).spell ++ " must not be blank") ∧
    (∀ path key count, (Violation.variantCount path key count).message =
      (Address.ofEntry path).spell ++ " (key '" ++ key ++
        "') must set exactly one value variant, found " ++ toString count) ∧
    (∀ place text, m.textAt? place = some text →
      m.toJson.at? (.ofPlace place) = some (.text text)) ∧
    (∀ path e, m.entryAt? path = some e → m.toJson.at? (.ofEntry path) = some e.toJson) ∧
    ((∃ valid, ofMessage m = .ok valid) ↔ ∀ v, ¬ m.Defect v) ∧
    (∀ valid, ofMessage m = .ok valid →
      m.populatedCases = [valid.caseName] ∧ valid.IsCaseOf m) ∧
    (∀ found, ofMessage m = .error found → found = m.violations) := by
  refine ⟨fun v => Message.mem_violations, m.violations_pairwise, fun i => rfl,
    fun path i inside => Violation.entryLabel_append inside i, Violation.message_caseCount,
    Violation.message_blank, Violation.message_variantCount,
    fun place text => Message.at?_ofPlace, fun path e => Message.at?_ofEntry, ?_, ?_,
    fun found => ofMessage_eq_error⟩
  · constructor
    · rintro ⟨valid, reduced⟩
      exact (ofMessage_eq_ok reduced).1
    · intro clean
      refine ⟨firstCase m, ?_⟩
      rw [ofMessage, if_pos ((violations_eq_nil_iff m).mpr clean)]
  · intro valid reduced
    obtain ⟨clean, rfl⟩ := ofMessage_eq_ok reduced
    have single : m.populatedCases.length = 1 := by
      rw [Message.length_populatedCases]
      by_cases one : m.caseNumber = 1
      · exact one
      · exact absurd (.cases one) (clean _)
    obtain ⟨first, content⟩ := head_populatedCases single
    exact ⟨eq_singleton_of_head single first, content⟩

end ValidMessage

end RemoteSurface
