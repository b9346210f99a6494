/-!
Keyed tables. A list of members is a table's content wherever a value nests; a `Table` is such a
list together with the proof that its keys ascend, so two tables that answer every look-up alike
are equal. Keys are ordered by their characters.
-/
namespace RemoteSurface

universe u v

/-- The content of a keyed table: each key with what it holds. -/
abbrev Members (α : Type u) := List (String × α)

namespace Members

variable {α : Type u} {β : Type v}

/-- Keys ascend strictly, so none occurs twice. -/
def Sorted (ms : Members α) : Prop :=
  ms.Pairwise fun a b => a.1 < b.1

instance (ms : Members α) : Decidable (Sorted ms) :=
  inferInstanceAs (Decidable (ms.Pairwise fun a b => a.1 < b.1))

/-- What a key holds: the first member under that key. -/
def find? (k : String) : Members α → Option α
  | [] => none
  | (j, v) :: rest => if k = j then some v else find? k rest

/-- Stores under a key, in key order; what the key held before is gone. -/
def put (k : String) (v : α) : Members α → Members α
  | [] => [(k, v)]
  | (j, w) :: rest =>
    if k = j then (k, v) :: rest
    else if k < j then (k, v) :: (j, w) :: rest
    else (j, w) :: put k v rest

/-- Drops every member under a key. -/
def erase (k : String) : Members α → Members α
  | [] => []
  | (j, w) :: rest => if k = j then erase k rest else (j, w) :: erase k rest

/-- Stores members one after another: of two under one key, the later stays. -/
def putAll (ms : Members α) (later : Members α) : Members α :=
  later.foldl (fun t m => put m.1 m.2 t) ms

/-- The keys, in the order of the members. -/
def keys (ms : Members α) : List String := ms.map Prod.fst

def mapValues (f : α → β) (ms : Members α) : Members β :=
  ms.map fun m => (m.1, f m.2)

@[simp] theorem find?_nil (k : String) : find? k ([] : Members α) = none := rfl

theorem find?_put (k j : String) (v : α) (ms : Members α) :
    find? j (put k v ms) = if j = k then some v else find? j ms := by
  induction ms with
  | nil => simp [put, find?]
  | cons m rest ih =>
    obtain ⟨i, w⟩ := m
    by_cases same : k = i
    · subst same
      by_cases h : j = k <;> simp [put, find?, h]
    · by_cases less : k < i
      · simp [put, find?, same, less]
      · by_cases h : j = i
        · subst h
          simp [put, find?, same, less, Ne.symm same]
        · simp [put, find?, same, less, h, ih]

theorem find?_erase (k j : String) (ms : Members α) :
    find? j (erase k ms) = if j = k then none else find? j ms := by
  induction ms with
  | nil => simp [erase]
  | cons m rest ih =>
    obtain ⟨i, w⟩ := m
    by_cases same : k = i
    · subst same
      by_cases h : j = k
      · subst h
        simpa [erase] using ih
      · simp [erase, find?, h, ih]
    · by_cases h : j = i
      · subst h
        simp [erase, find?, same, Ne.symm same]
      · simp [erase, find?, same, h, ih]

theorem mem_put {k : String} {v : α} {ms : Members α} {m : String × α}
    (h : m ∈ put k v ms) : m = (k, v) ∨ m ∈ ms := by
  induction ms with
  | nil => simpa [put] using h
  | cons head rest ih =>
    obtain ⟨j, w⟩ := head
    by_cases same : k = j
    · simp only [put, if_pos same, List.mem_cons] at h
      exact h.imp id (List.mem_cons_of_mem _)
    · by_cases less : k < j
      · simpa only [put, if_neg same, if_pos less, List.mem_cons] using h
      · simp only [put, if_neg same, if_neg less, List.mem_cons] at h
        rcases h with here | there
        · exact Or.inr (by simp [here])
        · exact (ih there).imp id (List.mem_cons_of_mem _)

theorem mem_of_mem_erase {k : String} {ms : Members α} {m : String × α}
    (h : m ∈ erase k ms) : m ∈ ms := by
  induction ms with
  | nil => simp [erase] at h
  | cons head rest ih =>
    obtain ⟨j, w⟩ := head
    by_cases same : k = j
    · simp only [erase, if_pos same] at h
      exact List.mem_cons_of_mem _ (ih h)
    · simp only [erase, if_neg same, List.mem_cons] at h
      rcases h with here | there
      · simp [here]
      · exact List.mem_cons_of_mem _ (ih there)

theorem sorted_nil : Sorted ([] : Members α) := List.Pairwise.nil

theorem Sorted.put {ms : Members α} (k : String) (v : α) (h : Sorted ms) :
    Sorted (Members.put k v ms) := by
  induction ms with
  | nil => simp [Sorted, Members.put]
  | cons head rest ih =>
    obtain ⟨j, w⟩ := head
    obtain ⟨least, tail⟩ := List.pairwise_cons.mp h
    by_cases same : k = j
    · subst same
      simp only [Members.put, if_pos]
      exact List.pairwise_cons.mpr ⟨least, tail⟩
    · by_cases less : k < j
      · simp only [Members.put, if_neg same, if_pos less]
        refine List.pairwise_cons.mpr ⟨fun m hm => ?_, h⟩
        rcases List.mem_cons.mp hm with here | there
        · simpa [here] using less
        · exact String.lt_trans less (least m there)
      · simp only [Members.put, if_neg same, if_neg less]
        refine List.pairwise_cons.mpr ⟨fun m hm => ?_, ih tail⟩
        rcases mem_put hm with here | there
        · rw [here]
          exact Std.lt_of_le_of_ne (Std.not_lt.1 less) (Ne.symm same)
        · exact least m there

theorem Sorted.erase {ms : Members α} (k : String) (h : Sorted ms) :
    Sorted (Members.erase k ms) := by
  induction ms with
  | nil => exact sorted_nil
  | cons head rest ih =>
    obtain ⟨j, w⟩ := head
    obtain ⟨least, tail⟩ := List.pairwise_cons.mp h
    by_cases same : k = j
    · simpa [Members.erase, same] using ih tail
    · simp only [Members.erase, if_neg same]
      exact List.pairwise_cons.mpr ⟨fun m hm => least m (mem_of_mem_erase hm), ih tail⟩

theorem Sorted.putAll {ms : Members α} (later : Members α) (h : Sorted ms) :
    Sorted (Members.putAll ms later) := by
  induction later generalizing ms with
  | nil => exact h
  | cons m rest ih => exact ih (h.put m.1 m.2)

theorem Sorted.mapValues {ms : Members α} (f : α → β) (h : Sorted ms) :
    Sorted (Members.mapValues f ms) := by
  simpa [Sorted, Members.mapValues, List.pairwise_map] using h

theorem find?_mapValues (f : α → β) (k : String) (ms : Members α) :
    find? k (mapValues f ms) = (find? k ms).map f := by
  induction ms with
  | nil => rfl
  | cons m rest ih =>
    obtain ⟨j, w⟩ := m
    by_cases h : k = j
    · simp [mapValues, find?, h]
    · simpa [mapValues, find?, h] using ih

end Members

/-- A keyed table: members whose keys ascend. -/
@[ext] structure Table (α : Type u) where
  members : Members α
  sorted : members.Sorted

namespace Table

variable {α : Type u} {β : Type v}

def empty : Table α := ⟨[], Members.sorted_nil⟩

instance : EmptyCollection (Table α) := ⟨empty⟩
instance : Inhabited (Table α) := ⟨empty⟩

instance [DecidableEq α] : DecidableEq (Table α) := fun s t =>
  if h : s.members = t.members then isTrue (Table.ext h)
  else isFalse fun e => h (congrArg members e)

/-- What a key holds. -/
def find? (t : Table α) (k : String) : Option α := t.members.find? k

def contains (t : Table α) (k : String) : Bool := (t.find? k).isSome

/-- Stores under a key. -/
def put (t : Table α) (k : String) (v : α) : Table α :=
  ⟨t.members.put k v, t.sorted.put k v⟩

def erase (t : Table α) (k : String) : Table α :=
  ⟨t.members.erase k, t.sorted.erase k⟩

def putAll (t : Table α) (later : Members α) : Table α :=
  ⟨t.members.putAll later, t.sorted.putAll later⟩

/-- The table of a list of members: of two under one key, the later stays. -/
def ofList (ms : Members α) : Table α := empty.putAll ms

def map (f : α → β) (t : Table α) : Table β :=
  ⟨t.members.mapValues f, t.sorted.mapValues f⟩

def keys (t : Table α) : List String := t.members.keys

def size (t : Table α) : Nat := t.members.length

def isEmpty (t : Table α) : Bool := t.members.isEmpty

@[simp] theorem find?_empty (k : String) : (empty : Table α).find? k = none := rfl

theorem find?_put (t : Table α) (k j : String) (v : α) :
    (t.put k v).find? j = if j = k then some v else t.find? j :=
  Members.find?_put k j v t.members

theorem find?_erase (t : Table α) (k j : String) :
    (t.erase k).find? j = if j = k then none else t.find? j :=
  Members.find?_erase k j t.members

theorem find?_map (f : α → β) (t : Table α) (k : String) :
    (t.map f).find? k = (t.find? k).map f :=
  Members.find?_mapValues f k t.members

end Table

end RemoteSurface
