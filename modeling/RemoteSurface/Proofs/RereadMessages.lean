import Mathlib.Tactic.Simproc.ExistsAndEq
import RemoteSurface.Proofs.FittingRecords
/-!
Messages read back from the objects that they are written as. What a message is told by members
that ascend does not depend on their order: each case by what stands under its key, and the rest
by the members under no such key.
-/
namespace RemoteSurface

universe u

namespace Members

variable {α : Type u}

theorem find?_filter_key (p : String → Bool) (k : String) (ms : Members α) :
    find? k (ms.filter fun m => p m.1) = if p k then find? k ms else none := by
  induction ms with
  | nil => simp
  | cons m rest ih =>
    obtain ⟨j, v⟩ := m
    by_cases kept : p j
    · rw [List.filter_cons_of_pos (by simpa using kept), find?, find?, ih]
      by_cases here : k = j
      · subst here
        simp [kept]
      · simp [here]
    · rw [List.filter_cons_of_neg (by simpa using kept), find?, ih]
      by_cases here : k = j
      · subst here
        simp [kept]
      · simp [here]

theorem Sorted.filter {ms : Members α} (sorted : Sorted ms) (p : String × α → Bool) :
    Sorted (ms.filter p) :=
  List.Pairwise.filter p sorted

end Members

namespace Message

/-- The keys of the known cases. -/
def caseNames : List String :=
  ["beginRendering", "surfaceUpdate", "dataModelUpdate", "deleteSurface"]

/-- What members say of a case: what is read under its key, and without one what it was before. -/
def Tells {α : Type} (read : Json → Json.Reading α) (k : String) (ms : Members Json)
    (before after : Option α) : Prop :=
  match Members.find? k ms with
  | some v => Json.readOptional read v = .ok after
  | none => after = before

/-- The members under no key of a known case. -/
def unknown (ms : Members Json) : Members Json := ms.filter fun o => !caseNames.contains o.1

theorem tells_nil {α : Type} (read : Json → Json.Reading α) (k : String)
    (before after : Option α) : Tells read k [] before after ↔ after = before :=
  Iff.rfl

theorem tells_cons_of_ne {α : Type} (read : Json → Json.Reading α) {j k : String}
    (different : k ≠ j) (v : Json) (ms : Members Json) (before after : Option α) :
    Tells read k ((j, v) :: ms) before after ↔ Tells read k ms before after := by
  rw [Tells, Tells, Members.find?, if_neg different]

theorem tells_cons_self {α : Type} (read : Json → Json.Reading α) (k : String) (v : Json)
    (ms : Members Json) (before after : Option α) :
    Tells read k ((k, v) :: ms) before after ↔ Json.readOptional read v = .ok after := by
  rw [Tells, Members.find?, if_pos rfl]

theorem tells_absent {α : Type} (read : Json → Json.Reading α) {k : String} {ms : Members Json}
    (absent : Members.find? k ms = none) (before after : Option α) :
    Tells read k ms before after ↔ after = before := by
  rw [Tells, absent]

theorem setCase_of_unknown {k : String} (apart : k ∉ caseNames) (v : Json) (m : Message) :
    setCase k v m = .ok { m with other := m.other.put k v } := by
  simp [caseNames] at apart
  simp [setCase, apart]

theorem fillMembers_setCase_iff {ms : Members Json} (sorted : ms.Sorted) (a m : Message) :
    Json.fillMembers setCase ms a = .ok m ↔
      Tells BeginRendering.read "beginRendering" ms a.beginRendering m.beginRendering ∧
      Tells SurfaceUpdate.read "surfaceUpdate" ms a.surfaceUpdate m.surfaceUpdate ∧
      Tells DataModelUpdate.read "dataModelUpdate" ms a.dataModelUpdate m.dataModelUpdate ∧
      Tells DeleteSurface.read "deleteSurface" ms a.deleteSurface m.deleteSurface ∧
      m.other = a.other.putAll (unknown ms) := by
  induction ms generalizing a with
  | nil =>
    have kept : a.other.putAll (unknown []) = a.other := rfl
    obtain ⟨b, u, d, x, o⟩ := a
    obtain ⟨b', u', d', x', o'⟩ := m
    simp [Json.fillMembers, tells_nil, kept, eq_comm]
  | cons o rest ih =>
    obtain ⟨k, v⟩ := o
    have absent : Members.find? k rest = none := sorted.find?_tail
    have step := ih (List.pairwise_cons.mp sorted).2
    by_cases known : k ∈ caseNames
    · have same : unknown ((k, v) :: rest) = unknown rest := by
        simp [unknown, known]
      simp only [caseNames, List.mem_cons, List.not_mem_nil, or_false] at known
      rw [Json.fillMembers, same]
      rcases known with rfl | rfl | rfl | rfl
      -- Only the case of the key is told by the first member, and what the others are told by the
      -- rest is what the induction says.
      all_goals
        rw [setCase, Json.bind_eq_ok_iff]
        simp [Json.map_eq_ok_iff, step, tells_cons_self, tells_cons_of_ne, tells_absent _ absent,
          and_left_comm]
    · have more : unknown ((k, v) :: rest) = (k, v) :: unknown rest := by
        simp [unknown, known]
      have apart := known
      simp only [caseNames, List.mem_cons, List.not_mem_nil, or_false, not_or] at apart
      obtain ⟨begins, updates, models, deletes⟩ := apart
      rw [Json.fillMembers, setCase_of_unknown known, more]
      simp only [Except.bind, step, tells_cons_of_ne _ (Ne.symm begins),
        tells_cons_of_ne _ (Ne.symm updates), tells_cons_of_ne _ (Ne.symm models),
        tells_cons_of_ne _ (Ne.symm deletes)]
      rfl

theorem find?_putAll_unknown {ms : Members Json} (sorted : ms.Sorted) (k : String) :
    (Table.empty.putAll (unknown ms)).find? k =
      if k ∈ caseNames then none else Members.find? k ms := by
  have stored : Members.putAll [] (unknown ms) = unknown ms := (sorted.filter _).putAll_nil
  have found := Members.find?_filter_key (fun k => !caseNames.contains k) k ms
  exact (congrArg (Members.find? k) stored).trans (found.trans (by simp))

/-- What a message keeps beside its cases stands under keys of no case. -/
def Apart (m : Message) : Prop := ∀ k ∈ caseNames, m.other.find? k = none

theorem apart_of_ofJson {room : ℕ} {v : Json} {m : Message} (fits : v.Fits room)
    (read : ofJson v = .ok m) : m.Apart := by
  cases v with
  | object ms =>
    obtain ⟨-, ascending, -⟩ := fits
    have filled := fillMembers_of_ofJson read
    obtain ⟨-, -, -, -, kept⟩ := (fillMembers_setCase_iff ascending {} m).mp filled
    intro k known
    rw [kept]
    exact (find?_putAll_unknown ascending k).trans (if_pos known)
  | _ => simp [ofJson] at read

theorem find?_caseMember {α : Type} (j k : String) (write : α → Json) (c : Option α) :
    Members.find? j (caseMember k write c) = if j = k then c.map write else none := by
  cases c <;> simp [caseMember, Members.find?]

theorem reverse_caseMember {α : Type} (k : String) (write : α → Json) (c : Option α) :
    (caseMember k write c).reverse = caseMember k write c := by
  cases c <;> rfl

/-- The table whose members a message is written with. -/
def written (m : Message) : Table Json := m.other.putAll m.caseMembers

theorem find?_written (m : Message) (k : String) :
    m.written.find? k =
      ((if k = "deleteSurface" then m.deleteSurface.map DeleteSurface.toJson else none).or
      ((if k = "dataModelUpdate" then m.dataModelUpdate.map DataModelUpdate.toJson else none).or
      ((if k = "surfaceUpdate" then m.surfaceUpdate.map SurfaceUpdate.toJson else none).or
      ((if k = "beginRendering" then m.beginRendering.map BeginRendering.toJson else none).or
      (m.other.find? k))))) := by
  simp only [written, caseMembers, Table.find?_putAll, List.reverse_append, reverse_caseMember,
    Members.find?_append, find?_caseMember, Option.or_assoc]

theorem tells_of_find? {α : Type} {read : Json → Json.Reading α} {write : α → Json} {k : String}
    {ms : Members Json} {c : Option α} (back : ∀ a, c = some a → read (write a) = .ok a)
    (solid : ∀ a, write a ≠ .null) (found : Members.find? k ms = c.map write) :
    Tells read k ms none c := by
  rw [Tells, found]
  cases c with
  | none => rfl
  | some a => exact Json.readOptional_write (back a rfl) (solid a)

theorem ofJson_toJson {m : Message} (apart : m.Apart) (finite : m.IsFinite) :
    ofJson m.toJson = .ok m := by
  have absent := apart
  simp only [Apart, caseNames, List.forall_mem_cons] at absent
  obtain ⟨begins, updates, models, deletes, -⟩ := absent
  -- What is read back beside the cases is known by what its keys hold, since the cases stand among
  -- the other members in key order.
  have kept : m.other = Table.empty.putAll (unknown m.written.members) := by
    apply Table.ext_find?
    intro k
    rw [find?_putAll_unknown m.written.sorted]
    by_cases known : k ∈ caseNames
    · rw [if_pos known, apart k known]
    · have others := m.find?_written k
      rw [if_neg known]
      simp only [caseNames, List.mem_cons, List.not_mem_nil, or_false, not_or] at known
      simpa [Table.find?, known] using others.symm
  have filled : Json.fillMembers setCase m.written.members {} = .ok m := by
    rw [fillMembers_setCase_iff m.written.sorted]
    refine ⟨tells_of_find? (fun b known => BeginRendering.read_toJson (finite.begins b known))
        BeginRendering.toJson_ne_null ?_,
      tells_of_find? (fun u known => SurfaceUpdate.read_toJson (finite.updates u known))
        SurfaceUpdate.toJson_ne_null ?_,
      tells_of_find? (fun u known => DataModelUpdate.read_toJson (finite.models u known))
        DataModelUpdate.toJson_ne_null ?_,
      tells_of_find? (fun d _ => DeleteSurface.read_toJson d) DeleteSurface.toJson_ne_null ?_,
      kept⟩
    · exact (m.find?_written "beginRendering").trans (by simp [begins])
    · exact (m.find?_written "surfaceUpdate").trans (by simp [updates])
    · exact (m.find?_written "dataModelUpdate").trans (by simp [models])
    · exact (m.find?_written "deleteSurface").trans (by simp [deletes])
  show (Json.fillMembers setCase m.written.members {}).mapError _ = _
  rw [filled]
  rfl

/-- Whatever decodes is written as a JSON value that it is read from again, so every text of that
value decodes to it, with its members in another order or with blanks between them. The text that it
is written as is one of them if its numbers are read back from their texts, and so they are if its
doubles are short. -/
theorem decoding_undoes_writing {payload : String} {m : Message}
    (decoded : decode payload = .ok m) :
    ofJson m.toJson = .ok m ∧
      (∀ text, Json.parse? text = some m.toJson → decode text = .ok m) ∧
      (m.toJson.isLegible = true → decode m.toJson.render = .ok m) ∧
      ((∀ x ∈ m.toJson.doubles, x.IsShort) → decode m.toJson.render = .ok m) := by
  cases parsed : Json.parse? payload with
  | none => simp [decode, parsed] at decoded
  | some v =>
    have read : ofJson v = .ok m := by
      simpa [decode, parsed] using decoded
    have fits : v.Fits Source.maxDepth := Json.fits_of_parse? parsed
    obtain ⟨finite, written⟩ := ofJson_fits (by decide) fits read
    have back : ofJson m.toJson = .ok m := ofJson_toJson (apart_of_ofJson fits read) finite
    have onward : ∀ text, Json.parse? text = some m.toJson → decode text = .ok m := by
      intro text known
      rw [decode, known]
      exact back
    have again : m.toJson.isLegible = true → decode m.toJson.render = .ok m :=
      fun legible => onward _ (Json.parse?_render written legible)
    exact ⟨back, onward, again, fun short => again (m.toJson.isLegible_of_short written short)⟩

/-- A payload whose record and entries stand as arrays, beside members of no case. -/
def nestedPayload : String :=
  "\x7b\"dataModelUpdate\":[\"s\",null,[\x7b\"key\":\"a\",\"valueMap\":" ++
  "[\x7b\"key\":\"b\",\"valueNumber\":-2.5\x7d]\x7d," ++
  "\x7b\"key\":\"c\",\"valueMap\":\x7b\"d\":[1]\x7d\x7d]]," ++
  "\"later\":18446744073709551615,\"note\":null\x7d"

/-- The text that the message of the nested payload is written as. -/
def nestedText : String :=
  "\x7b\"dataModelUpdate\":\x7b\"contents\":[\x7b\"key\":\"a\",\"valueMap\":" ++
  "[\x7b\"key\":\"b\",\"valueNumber\":-2.5\x7d]\x7d," ++
  "\x7b\"key\":\"c\",\"valueMap\":\x7b\"d\":[1.0]\x7d\x7d]," ++
  "\"surfaceId\":\"s\"\x7d,\"later\":18446744073709551615,\"note\":null\x7d"

theorem nested_arrays_and_other_members_come_back :
    ∃ m, decode nestedPayload = .ok m ∧ m.toJson.render = nestedText ∧
      ofJson m.toJson = .ok m ∧ decode nestedText = .ok m := by
  have decoded : ((decode nestedPayload).map fun m =>
      (m.toJson.render, m.toJson.isLegible)).toOption = some (nestedText, true) := by
    decide +kernel
  cases known : decode nestedPayload with
  | error failure => simp [known, Except.map, Except.toOption] at decoded
  | ok m =>
    rw [known] at decoded
    obtain ⟨text, legible⟩ := Prod.mk.inj (Option.some.inj decoded)
    obtain ⟨back, -, again, -⟩ := decoding_undoes_writing known
    refine ⟨m, rfl, text, back, ?_⟩
    rw [← text]
    exact again legible

end Message

end RemoteSurface
