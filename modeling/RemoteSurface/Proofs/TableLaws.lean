import RemoteSurface.Table
/-!
Laws of keyed tables. Storing twice under one key is storing once, storing under different keys
goes in either order, and a table is known by what its keys hold. The laws of storing need no
ascending keys, since the members of a map inside a value are a bare list.
-/
namespace RemoteSurface

universe u v

/-- Where some elements of a list have a property, one of them is the last. -/
theorem exists_last {α : Type u} {p : α → Prop} {as : List α} (present : ∃ a ∈ as, p a) :
    ∃ front a back, as = front ++ a :: back ∧ p a ∧ ∀ b ∈ back, ¬ p b := by
  induction as with
  | nil =>
    obtain ⟨a, member, -⟩ := present
    exact absurd member List.not_mem_nil
  | cons c rest ih =>
    by_cases later : ∃ a ∈ rest, p a
    · obtain ⟨front, a, back, rfl, here, last⟩ := ih later
      exact ⟨c :: front, a, back, rfl, here, last⟩
    · obtain ⟨a, member, here⟩ := present
      rcases List.mem_cons.mp member with rfl | there
      · exact ⟨[], a, rest, rfl, here, fun b below held => later ⟨b, below, held⟩⟩
      · exact absurd ⟨a, there, here⟩ later

namespace Members

variable {α : Type u} {β : Type v}

theorem key_ne_of_lt {j k : String} (less : j < k) : j ≠ k := by
  intro same
  subst same
  exact String.lt_irrefl j less

theorem key_lt_or_gt {j k : String} (different : j ≠ k) : j < k ∨ k < j := by
  by_cases less : j < k
  · exact Or.inl less
  · exact Or.inr (Std.lt_of_le_of_ne (Std.not_lt.1 less) (Ne.symm different))

theorem put_put (k : String) (v w : α) (ms : Members α) :
    put k v (put k w ms) = put k v ms := by
  induction ms with
  | nil => simp [put]
  | cons m rest ih =>
    obtain ⟨j, x⟩ := m
    by_cases same : k = j
    · simp [put, same]
    · by_cases less : k < j
      · simp [put, same, less]
      · simp [put, same, less, ih]

theorem put_put_of_lt {j k : String} (less : j < k) (v w : α) (ms : Members α) :
    put j v (put k w ms) = put k w (put j v ms) := by
  have apart := key_ne_of_lt less
  have notBelow : ¬ k < j := String.lt_asymm less
  induction ms with
  | nil => simp [put, apart, Ne.symm apart, less, notBelow]
  | cons m rest ih =>
    obtain ⟨i, x⟩ := m
    by_cases same : j = i
    · subst same
      simp [put, Ne.symm apart, notBelow]
    · by_cases before : j < i
      · have skipped : put k w ((j, v) :: (i, x) :: rest) = (j, v) :: put k w ((i, x) :: rest) := by
          simp [put, Ne.symm apart, notBelow]
        have inFront : ∀ ms, ms = put k w ((i, x) :: rest) → put j v ms = (j, v) :: ms := by
          intro ms known
          simp only [put] at known
          split at known
          · simp [known, put, apart, less]
          · split at known
            · simp [known, put, apart, less]
            · simp [known, put, same, before]
        rw [inFront _ rfl, ← skipped]
        simp [put, same, before]
      · have below : i < j := (key_lt_or_gt same).resolve_left before
        have belowToo := String.lt_trans below less
        simp [put, same, before, Ne.symm (key_ne_of_lt belowToo), String.lt_asymm belowToo, ih]

theorem put_comm {j k : String} (different : j ≠ k) (v w : α) (ms : Members α) :
    put j v (put k w ms) = put k w (put j v ms) := by
  rcases key_lt_or_gt different with less | greater
  · exact put_put_of_lt less v w ms
  · exact (put_put_of_lt greater w v ms).symm

theorem find?_eq_none_of_forall_ne {k : String} {ms : Members α}
    (absent : ∀ m ∈ ms, k ≠ m.1) : find? k ms = none := by
  induction ms with
  | nil => rfl
  | cons m rest ih =>
    obtain ⟨j, x⟩ := m
    have head : k ≠ j := absent (j, x) List.mem_cons_self
    rw [find?, if_neg head]
    exact ih fun m member => absent m (List.mem_cons_of_mem _ member)

/-- A key below the first key of ascending members holds nothing among them. -/
theorem Sorted.find?_of_lt {k : String} {m : String × α} {rest : Members α}
    (sorted : Sorted (m :: rest)) (below : k < m.1) : find? k (m :: rest) = none := by
  apply find?_eq_none_of_forall_ne
  intro n member
  rcases List.mem_cons.mp member with here | there
  · rw [here]
    exact key_ne_of_lt below
  · exact key_ne_of_lt (String.lt_trans below ((List.pairwise_cons.mp sorted).1 n there))

theorem Sorted.find?_tail {m : String × α} {rest : Members α} (sorted : Sorted (m :: rest)) :
    find? m.1 rest = none := by
  apply find?_eq_none_of_forall_ne
  intro n member
  exact key_ne_of_lt ((List.pairwise_cons.mp sorted).1 n member)

/-- Ascending members are known by what every key holds among them. -/
theorem Sorted.ext {ms ns : Members α} (left : Sorted ms) (right : Sorted ns)
    (same : ∀ k, find? k ms = find? k ns) : ms = ns := by
  induction ms generalizing ns with
  | nil =>
    cases ns with
    | nil => rfl
    | cons n ns =>
      have impossible := same n.1
      simp [find?] at impossible
  | cons m ms ih =>
    cases ns with
    | nil =>
      have impossible := same m.1
      simp [find?] at impossible
    | cons n ns =>
      have heads : m.1 = n.1 := by
        by_cases equal : m.1 = n.1
        · exact equal
        · rcases key_lt_or_gt equal with less | greater
          · have impossible := same m.1
            rw [right.find?_of_lt less] at impossible
            simp [find?] at impossible
          · have impossible := same n.1
            rw [left.find?_of_lt greater] at impossible
            simp [find?] at impossible
      have values : m.2 = n.2 := by
        have found := same m.1
        simpa [find?, heads] using found
      have tails : ms = ns := by
        apply ih (List.pairwise_cons.mp left).2 (List.pairwise_cons.mp right).2
        intro k
        by_cases equal : k = m.1
        · rw [equal, left.find?_tail, heads, right.find?_tail]
        · have found := same k
          have equalToo : k ≠ n.1 := fun h => equal (h.trans heads.symm)
          simpa [find?, equal, equalToo] using found
      rw [tails, Prod.ext heads values]

/-- Among ascending members every member is found under its key. -/
theorem Sorted.find?_of_mem {k : String} {v : α} {ms : Members α} (sorted : Sorted ms)
    (member : (k, v) ∈ ms) : find? k ms = some v := by
  induction ms with
  | nil => exact absurd member List.not_mem_nil
  | cons m rest ih =>
    rcases List.mem_cons.mp member with here | there
    · rw [← here, find?, if_pos rfl]
    · have above := (List.pairwise_cons.mp sorted).1 (k, v) there
      rw [find?, if_neg (Ne.symm (key_ne_of_lt above))]
      exact ih (List.pairwise_cons.mp sorted).2 there

theorem mem_of_find? {k : String} {v : α} {ms : Members α} (found : find? k ms = some v) :
    (k, v) ∈ ms := by
  induction ms with
  | nil => cases found
  | cons m rest ih =>
    obtain ⟨j, x⟩ := m
    by_cases equal : k = j
    · subst equal
      rw [find?, if_pos rfl] at found
      rw [Option.some.inj found]
      exact List.mem_cons_self
    · rw [find?, if_neg equal] at found
      exact List.mem_cons_of_mem _ (ih found)

theorem sorted_of_keys {keys : List String} {ms : Members α} (ascending : keys.Pairwise (· < ·))
    (among : (ms.map Prod.fst).Sublist keys) : Sorted ms :=
  List.pairwise_map.mp (ascending.sublist among)

theorem find?_append (k : String) (ms ns : Members α) :
    find? k (ms ++ ns) = (find? k ms).or (find? k ns) := by
  induction ms with
  | nil => rfl
  | cons m rest ih =>
    obtain ⟨j, x⟩ := m
    by_cases equal : k = j <;> simp [find?, equal, ih]

/-- Of the members stored under a key the last stays, and without one the key holds what it
held. -/
theorem find?_putAll (k : String) (later ms : Members α) :
    find? k (putAll ms later) = (find? k later.reverse).or (find? k ms) := by
  induction later generalizing ms with
  | nil => rfl
  | cons m rest ih =>
    have step : find? k (putAll ms (m :: rest)) =
        (find? k rest.reverse).or (find? k (put m.1 m.2 ms)) := ih (put m.1 m.2 ms)
    rw [step, find?_put, List.reverse_cons, find?_append, Option.or_assoc]
    by_cases equal : k = m.1 <;> simp [find?, equal]

/-- Looked up from its end, a list shows the last member under a key. -/
theorem find?_reverse_of_last {k : String} {v : α} {before after : Members α}
    (last : ∀ m ∈ after, m.1 ≠ k) : find? k (before ++ (k, v) :: after).reverse = some v := by
  have absent : find? k after.reverse = none := by
    apply find?_eq_none_of_forall_ne
    intro m member
    exact Ne.symm (last m (List.mem_reverse.mp member))
  rw [List.reverse_append, List.reverse_cons, find?_append, find?_append, absent]
  simp [find?]

theorem put_of_forall_lt {k : String} {ms : Members α} (last : ∀ m ∈ ms, m.1 < k) (v : α) :
    put k v ms = ms ++ [(k, v)] := by
  induction ms with
  | nil => rfl
  | cons m rest ih =>
    have less : m.1 < k := last m List.mem_cons_self
    have later := ih fun n member => last n (List.mem_cons_of_mem m member)
    simp [put, Ne.symm (key_ne_of_lt less), String.lt_asymm less, later]

theorem mem_putAll {m : String × α} {later ms : Members α} (member : m ∈ putAll ms later) :
    m ∈ ms ∨ m ∈ later := by
  induction later generalizing ms with
  | nil => exact Or.inl member
  | cons n rest ih =>
    rcases ih member with stored | there
    · rcases mem_put stored with here | before
      · exact Or.inr (here ▸ List.mem_cons_self)
      · exact Or.inl before
    · exact Or.inr (List.mem_cons_of_mem n there)

theorem mem_putAll_nil {m : String × α} {later : Members α} (member : m ∈ putAll [] later) :
    m ∈ later :=
  (mem_putAll member).resolve_left List.not_mem_nil

/-- Ascending members are stored as they stand. -/
theorem Sorted.putAll_nil {ms : Members α} (sorted : Sorted ms) : Members.putAll [] ms = ms := by
  have stored : ∀ before after : Members α, before ++ after = ms →
      Members.putAll before after = ms := by
    intro before after
    induction after generalizing before with
    | nil =>
      intro whole
      exact (List.append_nil before).symm.trans whole
    | cons m after ih =>
      intro whole
      have last : ∀ n ∈ before, n.1 < m.1 := by
        intro n member
        subst whole
        exact (List.pairwise_append.mp sorted).2.2 n member m List.mem_cons_self
      have next := ih (before ++ [m]) (by rw [List.append_assoc, List.singleton_append, whole])
      rw [← put_of_forall_lt last m.2] at next
      exact next
  exact stored [] ms rfl

end Members

namespace Table

variable {α : Type u}

theorem ext_find? {s t : Table α} (same : ∀ k, s.find? k = t.find? k) : s = t :=
  Table.ext (s.sorted.ext t.sorted same)

theorem ofList_members (t : Table α) : ofList t.members = t :=
  Table.ext t.sorted.putAll_nil

theorem find?_putAll (t : Table α) (later : Members α) (k : String) :
    (t.putAll later).find? k = (Members.find? k later.reverse).or (t.find? k) :=
  Members.find?_putAll k later t.members

theorem put_put (t : Table α) (k : String) (v w : α) : (t.put k w).put k v = t.put k v :=
  Table.ext (Members.put_put k v w t.members)

theorem erase_of_find?_none {t : Table α} {k : String} (absent : t.find? k = none) :
    t.erase k = t := by
  apply ext_find?
  intro j
  rw [find?_erase]
  split
  next equal => rw [equal, absent]
  next => rfl

end Table

end RemoteSurface
