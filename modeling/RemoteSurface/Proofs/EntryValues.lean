import RemoteSurface.Proofs.MessageReduction
/-!
What entries make. Entries that come through the check of messages set one variant each, at every
depth, and none of them is lost: the mapping that a list of entries makes has their keys and no
other, and holds under each key what the last entry with that key says. The order in which the
variants of an entry are tried does not matter, since there is only one to try.
-/
namespace RemoteSurface

namespace Entry

/-- A variant with what it holds. -/
inductive Variant where
  | text (s : String)
  | number (x : Double)
  | boolean (b : Bool)
  | object (fields : DataModel)
  | entries (nested : List Entry)
  | list (items : List Value)

def mapVariants : EntryMap → List Variant
  | .absent => []
  | .entries nested => [.entries nested]
  | .object fields => [.object fields]

/-- The variants that an entry sets, in the order in which the first one wins. -/
def set : Entry → List Variant
  | .mk _ t n b m l =>
    t.toList.map .text ++ n.toList.map .number ++ b.toList.map .boolean ++ mapVariants m ++
      l.toList.map .list

/-- The value that is stored for a variant. -/
def Variant.value : Variant → Value
  | .text s => .text s
  | .number x => .number x
  | .boolean b => .bool b
  | .object fields => .map fields.members
  | .entries nested => .map (toModel nested).members
  | .list items => .list items

theorem length_set (e : Entry) : e.set.length = e.setCount := by
  obtain ⟨k, t, n, b, m, l⟩ := e
  cases t <;> cases n <;> cases b <;> cases m <;> cases l <;> rfl

theorem value?_eq (e : Entry) : e.value? = e.set.head?.map Variant.value := by
  obtain ⟨k, t, n, b, m, l⟩ := e
  cases t with
  | some s => rfl
  | none =>
    cases n with
    | some x => rfl
    | none =>
      cases b with
      | some x => rfl
      | none =>
        cases m with
        | entries nested => rfl
        | object fields => rfl
        | absent => cases l <;> rfl

theorem nested_of_set {e : Entry} {ns : List Entry} (only : e.set = [.entries ns]) :
    e.nested = ns := by
  obtain ⟨k, t, n, b, m, l⟩ := e
  cases t with
  | some s => cases only
  | none =>
    cases n with
    | some x => cases only
    | none =>
      cases b with
      | some x => cases only
      | none =>
        cases m with
        | absent => cases l <;> cases only
        | object fields => cases only
        | entries nested =>
          obtain ⟨same, -⟩ := List.cons.inj only
          exact Variant.entries.inj same

mutual

/-- What a variant says. -/
inductive Variant.Gives : Variant → Value → Prop where
  | text (s : String) : Variant.Gives (.text s) (.text s)
  | number (x : Double) : Variant.Gives (.number x) (.number x)
  | boolean (b : Bool) : Variant.Gives (.boolean b) (.bool b)
  | object (fields : DataModel) : Variant.Gives (.object fields) (.map fields.members)
  | entries {nested : List Entry} {t : DataModel} : Makes nested t →
      Variant.Gives (.entries nested) (.map t.members)
  | list (items : List Value) : Variant.Gives (.list items) (.list items)

/-- Entries that set one variant each make the mapping that has exactly their keys, and under each
key what the last entry with that key gives. -/
inductive Makes : List Entry → DataModel → Prop where
  | intro {es : List Entry} {t : DataModel}
      (single : ∀ e ∈ es, ∃ variant, e.set = [variant])
      (keys : ∀ k, t.contains k = true ↔ ∃ e ∈ es, e.key = k)
      (values : ∀ before e after variant v, es = before ++ e :: after →
        (∀ later ∈ after, later.key ≠ e.key) → e.set = [variant] → t.find? e.key = some v →
          Variant.Gives variant v) :
      Makes es t

end

/-- The member that an entry stores. -/
def member? (e : Entry) : Option (String × Value) := e.value?.map fun v => (e.key, v)

theorem storeAll_eq (m : DataModel) (es : List Entry) :
    storeAll m es = m.putAll (es.filterMap member?) := by
  induction es generalizing m with
  | nil => rfl
  | cons e rest ih =>
    rw [storeAll]
    cases given : e.value? with
    | none =>
      have skipped : member? e = none := by rw [member?, given]; rfl
      rw [List.filterMap_cons_none skipped]
      exact ih m
    | some v =>
      have stored : member? e = some (e.key, v) := by rw [member?, given]; rfl
      rw [List.filterMap_cons_some stored]
      exact ih (m.put e.key v)

theorem find?_toModel (es : List Entry) (k : String) :
    (toModel es).find? k = Members.find? k (es.filterMap member?).reverse := by
  rw [toModel, storeAll_eq, Table.find?_putAll, Table.find?_empty, Option.or_none]

theorem key_of_mem_members {es : List Entry} {m : String × Value}
    (member : m ∈ es.filterMap member?) : ∃ e ∈ es, e.key = m.1 := by
  obtain ⟨e, there, stored⟩ := List.mem_filterMap.mp member
  obtain ⟨v, -, rfl⟩ := Option.map_eq_some_iff.mp stored
  exact ⟨e, there, rfl⟩

/-- The last entry under a key is the one that counts. -/
theorem find?_toModel_of_last {before after : List Entry} {e : Entry} {v : Value}
    (given : e.value? = some v) (last : ∀ later ∈ after, later.key ≠ e.key) :
    (toModel (before ++ e :: after)).find? e.key = some v := by
  have stored : member? e = some (e.key, v) := by rw [member?, given]; rfl
  rw [find?_toModel, List.filterMap_append, List.filterMap_cons_some stored]
  apply Members.find?_reverse_of_last
  intro m member
  obtain ⟨later, there, same⟩ := key_of_mem_members member
  rw [← same]
  exact last later there

theorem contains_toModel {es : List Entry} (valued : ∀ e ∈ es, ∃ v, e.value? = some v)
    (k : String) : (toModel es).contains k = true ↔ ∃ e ∈ es, e.key = k := by
  constructor
  · intro held
    obtain ⟨v, found⟩ := Option.isSome_iff_exists.mp held
    rw [find?_toModel] at found
    exact key_of_mem_members (List.mem_reverse.mp (Members.mem_of_find? found))
  · intro present
    obtain ⟨before, e, after, rfl, rfl, last⟩ := exists_last present
    obtain ⟨v, given⟩ := valued e (List.mem_append_right before List.mem_cons_self)
    rw [Table.contains, find?_toModel_of_last given last]
    rfl

theorem value?_of_single {e : Entry} {variant : Variant} (only : e.set = [variant]) :
    e.value? = some variant.value := by
  rw [value?_eq, only]
  rfl

/-- The conversion of a variant is right if that of the entries nested in it is. -/
theorem Variant.gives_iff {variant : Variant}
    (inner : ∀ nested, variant = .entries nested → ∀ t, Makes nested t ↔ t = toModel nested)
    (v : Value) : variant.Gives v ↔ v = variant.value := by
  cases variant with
  | entries nested =>
    constructor
    · intro gives
      cases gives with
      | entries made =>
        rw [(inner nested rfl _).mp made]
        rfl
    · rintro rfl
      exact .entries ((inner nested rfl _).mpr rfl)
  | _ =>
    constructor
    · rintro ⟨⟩
      rfl
    · rintro rfl
      constructor

/-- The conversion of a list of entries is right if that of their variants is. -/
theorem makes_iff {es : List Entry} (single : ∀ e ∈ es, ∃ variant, e.set = [variant])
    (inner : ∀ e ∈ es, ∀ variant, e.set = [variant] → ∀ v, variant.Gives v ↔ v = variant.value)
    (t : DataModel) : Makes es t ↔ t = toModel es := by
  have valued : ∀ e ∈ es, ∃ v, e.value? = some v := by
    intro e member
    obtain ⟨variant, only⟩ := single e member
    exact ⟨variant.value, value?_of_single only⟩
  constructor
  · rintro ⟨-, keys, values⟩
    apply Table.ext_find?
    intro k
    -- Under a key of the entries both hold what the last of them says, under any other nothing.
    by_cases present : ∃ e ∈ es, e.key = k
    · obtain ⟨v, found⟩ := Option.isSome_iff_exists.mp ((keys k).mpr present)
      obtain ⟨before, e, after, rfl, rfl, last⟩ := exists_last present
      have member : e ∈ before ++ e :: after := List.mem_append_right before List.mem_cons_self
      obtain ⟨variant, only⟩ := single e member
      have gives := values before e after variant v rfl last only found
      have given := value?_of_single only
      rw [← (inner e member variant only v).mp gives] at given
      rw [find?_toModel_of_last given last]
      exact found
    · have absent := mt (keys k).mp present
      have absentToo := mt (contains_toModel valued k).mp present
      rw [Table.contains, Option.not_isSome_iff_eq_none] at absent absentToo
      exact absent.trans absentToo.symm
  · rintro rfl
    refine ⟨single, contains_toModel valued, ?_⟩
    rintro before e after variant v rfl last only found
    have member : e ∈ before ++ e :: after := List.mem_append_right before List.mem_cons_self
    rw [find?_toModel_of_last (value?_of_single only) last] at found
    exact (inner e member variant only v).mpr (Option.some.inj found).symm

/-- Whether the check of a list of entries, wherever it stands, finds nothing wrong. -/
def Clean (es : List Entry) : Prop := ∃ path index, listViolations path index es = []

theorem Clean.cons {e : Entry} {rest : List Entry} (clean : Clean (e :: rest)) :
    (∃ variant, e.set = [variant]) ∧ Clean e.nested ∧ Clean rest := by
  obtain ⟨path, index, none⟩ := clean
  rw [listViolations_cons, violations_eq, List.append_eq_nil_iff, List.append_eq_nil_iff] at none
  obtain ⟨⟨own, inside⟩, others⟩ := none
  have one : e.setCount = 1 := by
    by_cases other : e.setCount = 1
    · exact other
    · rw [if_neg other] at own
      cases own
  rw [← length_set] at one
  exact ⟨List.length_eq_one_iff.mp one, ⟨_, _, inside⟩, ⟨_, _, others⟩⟩

theorem Clean.of_mem {es : List Entry} (clean : Clean es) {e : Entry} (member : e ∈ es) :
    (∃ variant, e.set = [variant]) ∧ Clean e.nested := by
  induction es with
  | nil => exact absurd member List.not_mem_nil
  | cons first rest ih =>
    obtain ⟨single, inside, others⟩ := clean.cons
    rcases List.mem_cons.mp member with rfl | there
    · exact ⟨single, inside⟩
    · exact ih others there

/-- The check goes as deep as the conversion: with nothing to find fault with, every variant is
converted to what it says. -/
theorem Clean.gives_iff {es : List Entry} (clean : Clean es) :
    ∀ e ∈ es, ∀ variant, e.set = [variant] → ∀ v, variant.Gives v ↔ v = variant.value := by
  induction es using forest_induction with
  | nil =>
    intro e member
    exact absurd member List.not_mem_nil
  | cons first rest nestedIh restIh =>
    obtain ⟨-, inside, others⟩ := clean.cons
    intro e member variant only
    rcases List.mem_cons.mp member with rfl | there
    · apply Variant.gives_iff
      rintro nested rfl
      obtain rfl := nested_of_set only
      exact makes_iff (fun inner below => (inside.of_mem below).1) (nestedIh inside)
    · exact restIh others e there variant only

theorem Clean.makes_iff {es : List Entry} (clean : Clean es) (t : DataModel) :
    Makes es t ↔ t = toModel es :=
  Entry.makes_iff (fun _ member => (clean.of_mem member).1) clean.gives_iff t

/-- The lists of entries at every depth: a list itself, and what is nested in the entries of such a
list. -/
inductive Level (es : List Entry) : List Entry → Prop where
  | top : Level es es
  | within {level nested : List Entry} {k : String} {t : Option String} {n : Option Double}
      {b : Option Bool} {l : Option (List Value)} : Level es level →
      Entry.mk k t n b (.entries nested) l ∈ level → Level es nested

theorem Level.clean {es level : List Entry} (inside : Level es level) (clean : Clean es) :
    Clean level := by
  induction inside with
  | top => exact clean
  | within _ member ih => exact (ih.of_mem member).2

end Entry

namespace ValidMessage

theorem clean_of_ofMessage {m : Message} {u : DataModelUpdate}
    (valid : ofMessage m = .ok (.dataModelUpdate u)) : Entry.Clean u.contents := by
  have present : m.dataModelUpdate = some u := ofMessage_isCaseOf valid
  have nothing := (violations_eq_nil_iff m).mpr (ofMessage_eq_ok valid).1
  rw [Message.violations, present, List.append_eq_nil_iff, List.append_eq_nil_iff] at nothing
  have data : Message.modelViolations u = [] := nothing.1.2
  rw [Message.modelViolations, List.append_eq_nil_iff] at data
  exact ⟨[], 0, data.2⟩

open Entry

/-- No entry of a well-formed update is lost, at any depth. A list of entries makes one mapping and
no other: its keys are those of the entries, and each key holds what the only variant of the last
entry with that key says. Every entry sets one variant and gives its value, in whatever order the
variants that it sets are tried. -/
theorem no_entry_is_lost {m : Message} {u : DataModelUpdate}
    (valid : ofMessage m = .ok (.dataModelUpdate u)) {es : List Entry}
    (level : Level u.contents es) :
    (∀ t, Makes es t ↔ t = toModel es) ∧
    (∀ k, (toModel es).contains k = true ↔ ∃ e ∈ es, e.key = k) ∧
    (∀ before e after, es = before ++ e :: after → (∀ later ∈ after, later.key ≠ e.key) →
      ∃ variant v, e.set = [variant] ∧ variant.Gives v ∧
        (toModel es).find? e.key = some v) ∧
    ∀ e ∈ es, ∃ variant v, e.set = [variant] ∧ variant.Gives v ∧ e.value? = some v ∧
      ∀ order : List Variant, order.Perm e.set → order.head?.map Variant.value = some v := by
  have clean := level.clean (clean_of_ofMessage valid)
  have made := clean.makes_iff
  obtain ⟨-, keys, values⟩ := (made (toModel es)).mpr rfl
  have gives : ∀ e ∈ es, ∃ variant, e.set = [variant] ∧ variant.Gives variant.value := by
    intro e member
    obtain ⟨variant, only⟩ := (clean.of_mem member).1
    exact ⟨variant, only, (clean.gives_iff e member variant only variant.value).mpr rfl⟩
  refine ⟨made, keys, ?_, ?_⟩
  · rintro before e after rfl last
    obtain ⟨variant, only, right⟩ := gives e (List.mem_append_right before List.mem_cons_self)
    exact ⟨variant, variant.value, only, right,
      find?_toModel_of_last (value?_of_single only) last⟩
  · intro e member
    obtain ⟨variant, only, right⟩ := gives e member
    refine ⟨variant, variant.value, only, right, value?_of_single only, ?_⟩
    intro order same
    rw [only, List.perm_singleton] at same
    rw [same]
    rfl

/-- Entries of a user, one of them twice, and an update that nests them under a key which an earlier
entry has given a text. -/
def userEntries : List Entry :=
  [.mk "name" (some "Ada") none none .absent none,
    .mk "tags" none none none .absent (some [.text "first", .null]),
    .mk "name" (some "Grace") none none .absent none]

def userUpdate : DataModelUpdate :=
  { surfaceId := "form",
    contents := [
      .mk "user" (some "nobody") none none .absent none,
      .mk "flags" none none none (.object (.ofList [("dark", .bool true)])) none,
      .mk "user" none none none (.entries userEntries) none] }

theorem nested_entries_of_user_are_kept :
    ofMessage { dataModelUpdate := some userUpdate } = .ok (.dataModelUpdate userUpdate) ∧
      Level userUpdate.contents userEntries ∧
      (toModel userEntries).find? "name" = some (.text "Grace") ∧
      (toModel userUpdate.contents).find? "user" =
        some (.map (toModel userEntries).members) := by
  have valid : ofMessage { dataModelUpdate := some userUpdate } =
      .ok (.dataModelUpdate userUpdate) := rfl
  have inside : Level userUpdate.contents userEntries := .within .top (List.mem_of_getElem? (i := 2) rfl)
  obtain ⟨variant, v, only, gives, name⟩ :=
    (no_entry_is_lost valid inside).2.2.1 (userEntries.take 2) _ [] rfl (by simp)
  obtain ⟨variant', w, only', gives', user⟩ :=
    (no_entry_is_lost valid .top).2.2.1 (userUpdate.contents.take 2) _ [] rfl (by simp)
  cases only
  cases only'
  cases gives
  refine ⟨valid, inside, name, ?_⟩
  cases gives' with
  | entries made =>
    rw [(no_entry_is_lost valid inside).1] at made
    rw [← made]
    exact user

end ValidMessage

end RemoteSurface
