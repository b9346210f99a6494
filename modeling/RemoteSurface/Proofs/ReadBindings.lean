import RemoteSurface.Binding
import RemoteSurface.Proofs.RereadMessages
/-!
The two readers of a binding. The strict one fails at the first member that does not fit; the
lenient one passes over it. On what does fit they agree, field by field, so the lenient reader is the
strict one of the members that fit.
-/
namespace RemoteSurface

universe u

namespace Members

variable {α : Type u}

theorem Sorted.find?_filter {ms : Members α} (sorted : Sorted ms) (p : String × α → Bool)
    (k : String) : find? k (ms.filter p) = (find? k ms).filter fun v => p (k, v) := by
  induction ms with
  | nil => rfl
  | cons m rest ih =>
    obtain ⟨j, v⟩ := m
    have absent : find? j rest = none := sorted.find?_tail
    have later := ih (List.pairwise_cons.mp sorted).2
    by_cases kept : p (j, v) = true
    · rw [List.filter_cons_of_pos kept, find?, find?, later]
      by_cases here : k = j
      · subst here
        simp [Option.filter, kept]
      · simp [here]
    · rw [List.filter_cons_of_neg kept, later, find?]
      by_cases here : k = j
      · subst here
        simp [Option.filter, kept, absent]
      · simp [here]

end Members

namespace Value

theorem mapM_read (items : List Json) : items.mapM read = .ok (ofItems items) := by
  induction items with
  | nil => rfl
  | cons v rest ih =>
    rw [List.mapM_cons, ih]
    rfl

end Value

namespace Binding

/-- Whether a value is of the type of the field of a key. A key of no field takes any value. -/
def isOfType (k : String) (v : Json) : Bool :=
  match k, v with
  | "path", .text _ => true
  | "literalString", .text _ => true
  | "literalNumber", .number _ => true
  | "literalBoolean", .bool _ => true
  | "literalArray", .array _ => true
  | k, _ => !fieldNames.contains k

/-- Whether a key may hold a value: null, or one of the type of its field. -/
def accepts (k : String) (v : Json) : Bool := v.isNull || isOfType k v

/-- The members of an object that a binding takes. -/
def accepted (ms : Members Json) : Members Json := ms.filter fun m => accepts m.1 m.2

open Message (Tells tells_nil tells_cons_self tells_cons_of_ne tells_absent)

theorem setField_of_unknown {k : String} (apart : k ∉ fieldNames) (v : Json) (b : Binding) :
    setField k v b = .ok b := by
  simp [fieldNames] at apart
  simp [setField, apart]

theorem fillMembers_setField_iff {ms : Members Json} (sorted : ms.Sorted) (a b : Binding) :
    Json.fillMembers setField ms a = .ok b ↔
      Tells Json.readText "path" ms a.path b.path ∧
      Tells Json.readText "literalString" ms a.text b.text ∧
      Tells Json.readDouble "literalNumber" ms a.number b.number ∧
      Tells Json.readBool "literalBoolean" ms a.boolean b.boolean ∧
      Tells (Json.readList Value.read) "literalArray" ms a.list b.list := by
  induction ms generalizing a with
  | nil =>
    obtain ⟨p, t, n, o, l⟩ := a
    obtain ⟨p', t', n', o', l'⟩ := b
    simp [Json.fillMembers, tells_nil, eq_comm]
  | cons m rest ih =>
    obtain ⟨k, v⟩ := m
    have absent : Members.find? k rest = none := sorted.find?_tail
    have step := ih (List.pairwise_cons.mp sorted).2
    rw [Json.fillMembers]
    by_cases known : k ∈ fieldNames
    · simp only [fieldNames, List.mem_cons, List.not_mem_nil, or_false] at known
      rcases known with path | text | number | boolean | list
      · subst path
        rw [setField, Json.bind_eq_ok_iff]
        simp [Json.map_eq_ok_iff, step, tells_cons_self, tells_cons_of_ne, tells_absent _ absent]
      · subst text
        rw [setField, Json.bind_eq_ok_iff]
        simp [Json.map_eq_ok_iff, step, tells_cons_self, tells_cons_of_ne, tells_absent _ absent,
          and_left_comm]
      · subst number
        rw [setField, Json.bind_eq_ok_iff]
        simp [Json.map_eq_ok_iff, step, tells_cons_self, tells_cons_of_ne, tells_absent _ absent,
          and_left_comm]
      · subst boolean
        rw [setField, Json.bind_eq_ok_iff]
        simp [Json.map_eq_ok_iff, step, tells_cons_self, tells_cons_of_ne, tells_absent _ absent,
          and_left_comm]
      · subst list
        rw [setField, Json.bind_eq_ok_iff]
        simp [Json.map_eq_ok_iff, step, tells_cons_self, tells_cons_of_ne, tells_absent _ absent,
          and_comm, and_left_comm, and_assoc]
    · rw [setField_of_unknown known]
      simp only [fieldNames, List.mem_cons, List.not_mem_nil, or_false, not_or] at known
      obtain ⟨path, text, number, boolean, list⟩ := known
      simp only [Except.bind, step, tells_cons_of_ne _ (Ne.symm path),
        tells_cons_of_ne _ (Ne.symm text), tells_cons_of_ne _ (Ne.symm number),
        tells_cons_of_ne _ (Ne.symm boolean), tells_cons_of_ne _ (Ne.symm list)]

/-- The two readers of a field agree: what its key accepts both read alike, and in what it does not
accept the lenient one finds nothing. -/
def Agree {α : Type} (read : Json → Json.Reading α) (as? : Value → Option α) (k : String) : Prop :=
  ∀ v, if accepts k v then Json.readOptional read v = .ok (as? (Value.ofJson v))
    else as? (Value.ofJson v) = none

theorem path_agree : Agree Json.readText Value.asText? "path" := by
  intro v
  cases v <;> simp [accepts, isOfType, Json.isNull, fieldNames] <;> rfl

theorem text_agree : Agree Json.readText Value.asText? "literalString" := by
  intro v
  cases v <;> simp [accepts, isOfType, Json.isNull, fieldNames] <;> rfl

theorem number_agree : Agree Json.readDouble Value.asNumber? "literalNumber" := by
  intro v
  cases v <;> simp [accepts, isOfType, Json.isNull, fieldNames] <;> rfl

theorem boolean_agree : Agree Json.readBool Value.asBool? "literalBoolean" := by
  intro v
  cases v <;> simp [accepts, isOfType, Json.isNull, fieldNames] <;> rfl

theorem list_agree : Agree (Json.readList Value.read) Value.asList? "literalArray" := by
  intro v
  cases v with
  | array items =>
    have read := Value.mapM_read items
    simp [accepts, isOfType, Json.readOptional, Json.readList, read, Value.ofJson, Value.asList?,
      Except.map]
  | _ =>
    simp [accepts, isOfType, Json.isNull, fieldNames]
    rfl

/-- Of the members that are accepted the strict reader of a field is told what the lenient one
takes from all of them. -/
theorem tells_accepted {α : Type} {read : Json → Json.Reading α} {as? : Value → Option α}
    {k : String} (agree : Agree read as? k) {ms : Members Json} (sorted : ms.Sorted) :
    Tells read k (accepted ms) none ((Members.find? k (Value.ofMembers ms)).bind as?) := by
  rw [Tells, accepted, sorted.find?_filter, Value.ofMembers_eq_mapValues, Members.find?_mapValues]
  cases found : Members.find? k ms with
  | none => rfl
  | some v =>
    have here := agree v
    cases fit : accepts k v with
    | true => simpa [Option.filter, fit] using here
    | false => simpa [Option.filter, fit] using here

/-- Every field refuses what its key does not accept. -/
theorem setField_of_refused {k : String} {v : Json} (refused : accepts k v = false) (b : Binding) :
    ∃ failure, setField k v b = .error failure := by
  by_cases known : k ∈ fieldNames
  · simp only [fieldNames, List.mem_cons, List.not_mem_nil, or_false] at known
    rcases known with rfl | rfl | rfl | rfl | rfl
    all_goals
      cases v <;> simp [accepts, isOfType, Json.isNull, fieldNames] at refused <;> exact ⟨_, rfl⟩
  · have free : isOfType k v = true := by
      simp only [fieldNames, List.mem_cons, List.not_mem_nil, or_false, not_or] at known
      simp [isOfType, fieldNames, known]
    rw [accepts, free, Bool.or_true] at refused
    cases refused

theorem accepted_of_read {ms : Members Json} {a b : Binding}
    (filled : Json.fillMembers setField ms a = .ok b) : accepted ms = ms := by
  rw [accepted, List.filter_eq_self]
  induction ms generalizing a with
  | nil => simp
  | cons m rest ih =>
    obtain ⟨c, first, others⟩ := Json.bind_eq_ok_iff.mp filled
    refine List.forall_mem_cons.mpr ⟨?_, ih others⟩
    cases fit : accepts m.1 m.2 with
    | true => rfl
    | false =>
      obtain ⟨failure, refused⟩ := setField_of_refused fit a
      rw [refused] at first
      cases first

def ofMembers (ms : Members Value) : Binding where
  path := (Members.find? "path" ms).bind Value.asText?
  text := (Members.find? "literalString" ms).bind Value.asText?
  number := (Members.find? "literalNumber" ms).bind Value.asNumber?
  boolean := (Members.find? "literalBoolean" ms).bind Value.asBool?
  list := (Members.find? "literalArray" ms).bind Value.asList?

theorem ofValue?_map (ms : Members Value) :
    ofValue? (.map ms) =
      if fieldNames.any fun k => (Members.find? k ms).isSome then some (ofMembers ms) else none := rfl

theorem isSome_find?_ofMembers (k : String) (ms : Members Json) :
    (Members.find? k (Value.ofMembers ms)).isSome = (Members.find? k ms).isSome := by
  rw [Value.ofMembers_eq_mapValues, Members.find?_mapValues, Option.isSome_map]

theorem read_accepted {ms : Members Json} (sorted : ms.Sorted) :
    read (.object (accepted ms)) = .ok (ofMembers (Value.ofMembers ms)) := by
  have kept : (accepted ms).Sorted := sorted.filter _
  exact (fillMembers_setField_iff kept {} _).mpr
    ⟨tells_accepted path_agree sorted, tells_accepted text_agree sorted,
      tells_accepted number_agree sorted, tells_accepted boolean_agree sorted,
      tells_accepted list_agree sorted⟩

def written (b : Binding) : Members Json :=
  member? "path" .text b.path ++ member? "literalString" .text b.text ++
  member? "literalNumber" .ofDouble b.number ++
  member? "literalBoolean" .bool b.boolean ++
  member? "literalArray" (fun xs => .array (Value.toItems xs)) b.list

theorem member?_eq_caseMember {α : Type} (k : String) (write : α → Json) (c : Option α) :
    member? k write c = Message.caseMember k write c := by
  cases c <;> rfl

theorem find?_written (b : Binding) (k : String) :
    Members.find? k (Members.putAll [] b.written) =
      ((if k = "literalArray" then b.list.map fun xs => .array (Value.toItems xs) else none).or
      ((if k = "literalBoolean" then b.boolean.map .bool else none).or
      ((if k = "literalNumber" then b.number.map .ofDouble else none).or
      ((if k = "literalString" then b.text.map .text else none).or
      (if k = "path" then b.path.map .text else none))))) := by
  simp only [written, member?_eq_caseMember, Members.find?_putAll, List.reverse_append,
    Message.reverse_caseMember, Members.find?_append, Message.find?_caseMember, Members.find?_nil,
    Option.or_none]

theorem bind_map_write {α : Type} (write : α → Json) (as? : Value → Option α) (c : Option α)
    (back : ∀ a, c = some a → as? (Value.ofJson (write a)) = some a) :
    ((c.map write).map Value.ofJson).bind as? = c := by
  cases c with
  | none => rfl
  | some a => exact back a rfl

/-- Whether every number of a binding is finite, those in its list included. -/
structure IsFinite (b : Binding) : Prop where
  number : ∀ x, b.number = some x → x.isFinite = true
  list : ∀ xs, b.list = some xs → Value.ItemsFinite xs

theorem ofMembers_written {b : Binding} (finite : b.IsFinite) :
    ofMembers (Value.ofMembers (Members.putAll [] b.written)) = b := by
  have path := bind_map_write .text Value.asText? b.path fun _ _ => rfl
  have text := bind_map_write .text Value.asText? b.text fun _ _ => rfl
  have number : ((b.number.map .ofDouble).map Value.ofJson).bind Value.asNumber? = b.number := by
    apply bind_map_write
    intro x known
    rw [Json.ofDouble_of_finite (finite.number x known)]
    rfl
  have boolean := bind_map_write .bool Value.asBool? b.boolean fun _ _ => rfl
  have list : ((b.list.map fun xs => .array (Value.toItems xs)).map Value.ofJson).bind
      Value.asList? = b.list := by
    apply bind_map_write
    intro xs known
    exact congrArg some (Value.ofItems_toItems xs (finite.list xs known))
  simp [-Option.map_map, ofMembers, Value.ofMembers_eq_mapValues, Members.find?_mapValues,
    find?_written, path, text, number, boolean, list]

theorem exists_written {b : Binding} (set : b ≠ {}) :
    ∃ k ∈ fieldNames, (Members.find? k (Members.putAll [] b.written)).isSome := by
  by_contra absent
  simp [fieldNames, find?_written] at absent
  obtain ⟨path, text, number, boolean, list⟩ := b
  simp_all

/-- Of an object with a key of a binding the lenient reader reads what the strict one reads of the
members that the binding takes, so it agrees with the strict one wherever that succeeds. Without a
key nothing is read. A binding that holds something, and of numbers only finite ones, is read back
from what it is written as. -/
theorem lenient_reader_takes_what_fits :
    (∀ o : Table Json, (∃ k ∈ fieldNames, o.contains k = true) →
      ∃ b, ofValue? (Value.ofJson (.object o.members)) = some b ∧
        read (.object (accepted o.members)) = .ok b ∧
        ∀ c, read (.object o.members) = .ok c → c = b) ∧
    (∀ o : Table Json, (∀ k ∈ fieldNames, o.contains k = false) →
      ofValue? (Value.ofJson (.object o.members)) = none) ∧
    ∀ b : Binding, b ≠ {} → b.IsFinite → ofValue? (Value.ofJson b.toJson) = some b := by
  have lenient (ms : Members Json) : ofValue? (Value.ofJson (.object ms)) =
      if fieldNames.any fun k => (Members.find? k ms).isSome then
        some (ofMembers (Value.ofMembers ms)) else none := by
    rw [Value.ofJson, ofValue?_map]
    simp only [isSome_find?_ofMembers]
  refine ⟨?_, ?_, ?_⟩
  · intro o present
    have kept := read_accepted o.sorted
    refine ⟨ofMembers (Value.ofMembers o.members), ?_, kept, ?_⟩
    · rw [lenient]
      exact if_pos (List.any_eq_true.mpr present)
    · intro c strict
      have whole : accepted o.members = o.members := accepted_of_read strict
      rw [whole, strict] at kept
      exact Except.ok.inj kept
  · intro o absent
    rw [lenient]
    refine if_neg ?_
    intro present
    obtain ⟨k, known, held⟩ := List.any_eq_true.mp present
    exact Bool.false_ne_true ((absent k known).symm.trans held)
  · intro b set finite
    have object : b.toJson = .object (Members.putAll [] b.written) := rfl
    rw [object, lenient, ofMembers_written finite]
    exact if_pos (List.any_eq_true.mpr (exists_written set))

/-- A binding whose number is a text, beside a key of no binding. -/
def looseMembers : Table Json where
  members :=
    [("icon", .bool true), ("literalArray", .array [.number (.whole 1), .null]),
      ("literalNumber", .text "7"), ("literalString", .text "seven"), ("path", .null)]
  sorted := by decide

def sevenBinding : Binding :=
  { text := some "seven", list := some [.number (Double.ofInt 1), .null] }

theorem number_in_text_is_passed_over :
    (∃ k ∈ fieldNames, looseMembers.contains k = true) ∧
      (∃ failure, read (.object looseMembers.members) = .error failure) ∧
      ofValue? (Value.ofJson (.object looseMembers.members)) = some sevenBinding ∧
      ofValue? (Value.ofJson (.object [("icon", .bool true)])) = none ∧
      ofValue? (Value.ofJson sevenBinding.toJson) = some sevenBinding := by
  have present : ∃ k ∈ fieldNames, looseMembers.contains k = true := ⟨"path", by decide, rfl⟩
  have strict : read (.object (accepted looseMembers.members)) = .ok sevenBinding := rfl
  obtain ⟨b, lenient, kept, -⟩ := lenient_reader_takes_what_fits.1 looseMembers present
  rw [strict] at kept
  have finite : sevenBinding.IsFinite := by
    refine ⟨by simp [sevenBinding], ?_⟩
    rintro xs ⟨⟩
    have one : (Double.ofInt 1).isFinite = true := by decide
    exact ⟨one, trivial, trivial⟩
  refine ⟨present, ⟨_, rfl⟩, ?_, ?_, ?_⟩
  · rw [lenient, Except.ok.inj kept]
  · exact lenient_reader_takes_what_fits.2.1 ⟨[("icon", .bool true)], by decide⟩ (by decide)
  · exact lenient_reader_takes_what_fits.2.2 sevenBinding (by simp [sevenBinding]) finite

end Binding

end RemoteSurface
