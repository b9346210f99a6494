import RemoteSurface.Message.Validation
/-!
Defects of entries. An entry list is a forest: every entry may nest a list of its own. What a
check of the forest finds is, entry by entry and at every depth, a number of set variants other
than one; it is found under the positions that lead to the entry, and in the order of those
positions, in which an entry comes before the entries nested in it.
-/
namespace RemoteSurface

/-- Where the text of a place stands within its case: the fields of a component after the index of
the component. -/
def Place.steps : Place → List Nat
  | .beginSurface => [0]
  | .beginRoot => [1]
  | .updateSurface => []
  | .componentId i => [i, 0]
  | .componentType i => [i, 1]
  | .templateBinding i => [i, 2]
  | .templateComponent i => [i, 3]
  | .modelSurface => []
  | .deleteSurface => []
  | .actionSurface => []

/-- The case that a place belongs to, in the order of the document. -/
def Place.chapter : Place → Nat
  | .beginSurface => 1
  | .beginRoot => 1
  | .updateSurface => 2
  | .componentId _ => 2
  | .componentType _ => 2
  | .templateBinding _ => 2
  | .templateComponent _ => 2
  | .modelSurface => 3
  | .deleteSurface => 4
  | .actionSurface => 5

namespace Violation

/-- The case that a violation belongs to; the number of cases comes before any of them. -/
def chapter : Violation → Nat
  | .caseCount _ => 0
  | .blank place => place.chapter
  | .variantCount _ _ _ => 3

/-- Where a violation stands within its case. -/
def steps : Violation → List Nat
  | .caseCount _ => []
  | .blank place => place.steps
  | .variantCount path _ _ => path

/-- Where a violation stands in the document. Positions are compared number by number, and what
encloses comes before what it encloses. -/
def position (v : Violation) : List Nat := v.chapter :: v.steps

theorem position_lt_of_chapter {v w : Violation} (earlier : v.chapter < w.chapter) :
    v.position < w.position :=
  List.cons_lt_cons_iff.mpr (Or.inl earlier)

theorem position_lt_of_steps {v w : Violation} (together : v.chapter = w.chapter)
    (earlier : v.steps < w.steps) : v.position < w.position :=
  List.cons_lt_cons_iff.mpr (Or.inr ⟨together, earlier⟩)

end Violation

namespace Entry

/-- How many variants an entry sets. -/
def setCount : Entry → Nat
  | .mk _ t n b m l => [t.isSome, n.isSome, b.isSome, hasMap m, l.isSome].count true

/-- The entries nested in an entry. -/
def nested : Entry → List Entry
  | .mk _ _ _ _ (.entries es) _ => es
  | _ => []

/-- The entry that positions lead down to from an entry. -/
def descend? (e : Entry) : List Nat → Option Entry
  | [] => some e
  | i :: path => e.nested[i]?.bind (descend? · path)

theorem length_variants (e : Entry) : e.variants.length = e.setCount := by
  obtain ⟨k, t, n, b, m, l⟩ := e
  simp only [variants, setCount, variantNames, List.length_map]
  generalize t.isSome = t', n.isSome = n', b.isSome = b', hasMap m = m', l.isSome = l'
  revert t' n' b' m' l'
  decide

theorem sizeOf_nested_lt (e : Entry) : sizeOf e.nested < sizeOf e := by
  obtain ⟨k, t, n, b, m, l⟩ := e
  cases m with
  | absent =>
    simp only [nested, mk.sizeOf_spec, EntryMap.absent.sizeOf_spec, List.nil.sizeOf_spec]
    omega
  | entries es =>
    simp only [nested, mk.sizeOf_spec, EntryMap.entries.sizeOf_spec]
    omega
  | object fields =>
    simp only [nested, mk.sizeOf_spec, EntryMap.object.sizeOf_spec, List.nil.sizeOf_spec]
    omega

/-- Induction on forests: a list is met after the entries nested in its first and after the
others. -/
theorem forest_induction {motive : List Entry → Prop} (nil : motive [])
    (cons : ∀ e rest, motive e.nested → motive rest → motive (e :: rest)) :
    ∀ es, motive es
  | [] => nil
  | e :: rest =>
    cons e rest (forest_induction nil cons e.nested) (forest_induction nil cons rest)
termination_by es => sizeOf es
decreasing_by
  · have smaller := sizeOf_nested_lt e
    simp only [List.cons.sizeOf_spec]
    omega
  · simp only [List.cons.sizeOf_spec]
    omega

theorem violations_eq (path : List Nat) (e : Entry) :
    violations path e =
      (if e.setCount = 1 then [] else [.variantCount path e.key e.setCount]) ++
        listViolations path 0 e.nested := by
  rw [← length_variants]
  obtain ⟨k, t, n, b, m, l⟩ := e
  rw [violations]
  cases m <;> rfl

theorem listViolations_cons (path : List Nat) (index : Nat) (e : Entry) (rest : List Entry) :
    listViolations path index (e :: rest) =
      violations (path ++ [index]) e ++ listViolations path (index + 1) rest := rfl

/-- The violations of a forest are those of the entries that positions lead to. -/
theorem mem_listViolations {es : List Entry} {path : List Nat} {index : Nat} {v : Violation} :
    v ∈ listViolations path index es ↔
      ∃ i top below e, es[i]? = some top ∧ top.descend? below = some e ∧ e.setCount ≠ 1 ∧
        v = .variantCount (path ++ (index + i) :: below) e.key e.setCount := by
  induction es using forest_induction generalizing path index with
  | nil => simp [listViolations]
  | cons first rest nestedIh restIh =>
    rw [listViolations_cons, violations_eq, List.mem_append, List.mem_append, nestedIh, restIh]
    constructor
    · rintro ((own | ⟨i, top, below, e, atTop, found, count, rfl⟩) |
        ⟨i, top, below, e, atTop, found, count, rfl⟩)
      · by_cases one : first.setCount = 1
        · simp [one] at own
        · rw [if_neg one, List.mem_singleton] at own
          exact ⟨0, first, [], first, rfl, rfl, one, own⟩
      -- An entry found below the first one is one position deeper.
      · refine ⟨0, first, i :: below, e, rfl, ?_, count, ?_⟩
        · rw [descend?, atTop]
          exact found
        · simp
      · refine ⟨i + 1, top, below, e, atTop, found, count, ?_⟩
        rw [Nat.add_assoc, Nat.add_comm 1 i]
    · rintro ⟨i, top, below, e, atTop, found, count, rfl⟩
      cases i with
      | zero =>
        obtain rfl : first = top := Option.some.inj atTop
        cases below with
        | nil =>
          obtain rfl : first = e := Option.some.inj found
          rw [if_neg count]
          exact Or.inl (Or.inl List.mem_cons_self)
        | cons j below =>
          obtain ⟨top, atNested, foundBelow⟩ := Option.bind_eq_some_iff.mp found
          exact Or.inl (Or.inr ⟨j, top, below, e, atNested, foundBelow, count, by simp⟩)
      | succ i =>
        refine Or.inr ⟨i, top, below, e, atTop, found, count, ?_⟩
        rw [Nat.add_assoc, Nat.add_comm 1 i]

/-- What is found at an entry or below it has a path that goes on from that of the entry. -/
theorem path_of_mem_violations {path : List Nat} {e : Entry} {v : Violation}
    (member : v ∈ violations path e) : ∃ below k n, v = .variantCount (path ++ below) k n := by
  rw [violations_eq, List.mem_append] at member
  rcases member with own | inside
  · by_cases one : e.setCount = 1
    · simp [one] at own
    · rw [if_neg one, List.mem_singleton] at own
      exact ⟨[], e.key, e.setCount, by rw [own, List.append_nil]⟩
  · obtain ⟨i, top, below, inner, _, _, _, rfl⟩ := mem_listViolations.mp inside
    exact ⟨_, _, _, rfl⟩

/-- What is found in a forest is found in the order of the positions. -/
theorem listViolations_pairwise (path : List Nat) (index : Nat) (es : List Entry) :
    (listViolations path index es).Pairwise fun v w => v.steps < w.steps := by
  induction es using forest_induction generalizing path index with
  | nil => exact List.Pairwise.nil
  | cons first rest nestedIh restIh =>
    rw [listViolations_cons, List.pairwise_append]
    refine ⟨?_, restIh path (index + 1), ?_⟩
    · rw [violations_eq, List.pairwise_append]
      refine ⟨?_, nestedIh _ 0, ?_⟩
      · split
        · exact List.Pairwise.nil
        · exact List.pairwise_singleton _ _
      · intro v own w inside
        split at own
        · exact absurd own List.not_mem_nil
        · obtain rfl := List.mem_singleton.mp own
          obtain ⟨i, top, below, inner, _, _, _, rfl⟩ := mem_listViolations.mp inside
          have outside : path ++ [index] ++ [] < path ++ [index] ++ (0 + i) :: below :=
            List.append_left_lt (List.nil_lt_cons _ _)
          rwa [List.append_nil] at outside
    · intro v here w there
      obtain ⟨below, k, n, rfl⟩ := path_of_mem_violations here
      obtain ⟨i, top, after, inner, _, _, _, rfl⟩ := mem_listViolations.mp there
      have heads : index :: below < (index + 1 + i) :: after :=
        List.cons_lt_cons_iff.mpr (Or.inl (by omega))
      have earlier : path ++ index :: below < path ++ (index + 1 + i) :: after :=
        List.append_left_lt heads
      rwa [List.append_cons path index below] at earlier

end Entry

end RemoteSurface
