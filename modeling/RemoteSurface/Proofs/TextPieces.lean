import RemoteSurface.Text.Split
/-!
Cutting a text at a separator and joining the pieces undo each other, as long as no piece holds the
separator; and none does that was cut.
-/
namespace RemoteSurface

namespace Text

theorem pieces_of_not_mem {sep : Char} {s : List Char} (absent : sep ∉ s) :
    pieces sep s = [s] := by
  induction s with
  | nil => rfl
  | cons c s ih =>
    have head : ¬ c = sep := fun same => absent (same ▸ List.mem_cons_self)
    have tail : sep ∉ s := fun member => absent (List.mem_cons_of_mem c member)
    simp [pieces, head, ih tail]

theorem pieces_ne_nil (sep : Char) (s : List Char) : pieces sep s ≠ [] := by
  cases s with
  | nil => exact List.cons_ne_nil _ _
  | cons c s =>
    rw [pieces]
    split
    · exact List.cons_ne_nil _ _
    · split <;> exact List.cons_ne_nil _ _

/-- The pieces of a text that begins with another character than the separator. -/
theorem pieces_cons {sep c : Char} (other : c ≠ sep) (s : List Char) :
    ∃ first others, pieces sep s = first :: others ∧
      pieces sep (c :: s) = (c :: first) :: others := by
  obtain ⟨first, others, shape⟩ := List.exists_cons_of_ne_nil (pieces_ne_nil sep s)
  exact ⟨first, others, shape, by rw [pieces, if_neg other, shape]⟩

theorem pieces_append_cons (sep : Char) (s rest : List Char) :
    pieces sep (s ++ sep :: rest) = pieces sep s ++ pieces sep rest := by
  induction s with
  | nil => simp [pieces]
  | cons c s ih =>
    by_cases same : c = sep
    · simp [pieces, same, ih]
    · obtain ⟨first, others, shape, longer⟩ := pieces_cons same s
      rw [shape] at ih
      rw [longer, List.cons_append, pieces, if_neg same, ih]
      rfl

theorem pieces_append {sep : Char} {piece : List Char} (absent : sep ∉ piece) (rest : List Char) :
    pieces sep (piece ++ sep :: rest) = piece :: pieces sep rest := by
  rw [pieces_append_cons, pieces_of_not_mem absent]
  rfl

/-- Joined pieces are cut where they were joined. -/
theorem pieces_joinWith {sep : Char} {ps : List (List Char)} (nonempty : ps ≠ [])
    (absent : ∀ p ∈ ps, sep ∉ p) : pieces sep (joinWith sep ps) = ps := by
  induction ps with
  | nil => exact absurd rfl nonempty
  | cons p ps ih =>
    have head := absent p List.mem_cons_self
    cases ps with
    | nil => exact pieces_of_not_mem head
    | cons q qs =>
      have tail := ih (List.cons_ne_nil q qs) fun r member => absent r (List.mem_cons_of_mem p member)
      rw [joinWith, pieces_append head, tail]
      exact fun none => List.cons_ne_nil q qs none

theorem not_mem_of_mem_pieces {sep : Char} {s p : List Char} (piece : p ∈ pieces sep s) :
    sep ∉ p := by
  induction s generalizing p with
  | nil =>
    rw [List.mem_singleton.mp piece]
    exact List.not_mem_nil
  | cons c s ih =>
    by_cases same : c = sep
    · rw [pieces, if_pos same] at piece
      obtain rfl | later := List.mem_cons.mp piece
      · exact List.not_mem_nil
      · exact ih later
    · obtain ⟨first, others, shape, longer⟩ := pieces_cons same s
      rw [shape] at ih
      rw [longer] at piece
      obtain rfl | later := List.mem_cons.mp piece
      · exact List.not_mem_cons_of_ne_of_not_mem (Ne.symm same) (ih List.mem_cons_self)
      · exact ih (List.mem_cons_of_mem first later)

/-- The pieces of a text are joined to the text. -/
theorem joinWith_pieces (sep : Char) (s : List Char) : joinWith sep (pieces sep s) = s := by
  induction s with
  | nil => rfl
  | cons c s ih =>
    by_cases same : c = sep
    · obtain ⟨first, others, shape⟩ := List.exists_cons_of_ne_nil (pieces_ne_nil sep s)
      rw [pieces, if_pos same, shape, joinWith, ← shape, ih, same]
      · rfl
      · exact fun none => List.cons_ne_nil first others none
    · obtain ⟨first, others, shape, longer⟩ := pieces_cons same s
      rw [shape] at ih
      rw [longer]
      cases others with
      | nil => exact congrArg (List.cons c) ih
      | cons second others => exact congrArg (List.cons c) ih

/-- The last of joined pieces stands at the end, after a separator if it is not the only one. -/
theorem cons_joinWith_concat (sep : Char) (init : List (List Char)) (last : List Char) :
    sep :: joinWith sep (init ++ [last]) = (init.flatMap fun p => sep :: p) ++ sep :: last := by
  induction init with
  | nil => rfl
  | cons p init ih =>
    have more : init ++ [last] ≠ [] := List.append_ne_nil_of_right_ne_nil _ (List.cons_ne_nil _ _)
    obtain ⟨q, qs, shape⟩ := List.exists_cons_of_ne_nil more
    rw [List.cons_append, List.flatMap_cons, List.append_assoc, ← ih, shape]
    rfl

/-- What has no separator lengthens the last piece. -/
theorem pieces_append_of_not_mem {sep : Char} {s more last : List Char} {init : List (List Char)}
    (shape : pieces sep s = init ++ [last]) (absent : sep ∉ more) :
    pieces sep (s ++ more) = init ++ [last ++ more] := by
  have joined : joinWith sep (init ++ [last ++ more]) = s ++ more := by
    have ends := cons_joinWith_concat sep init last
    rw [← shape, joinWith_pieces] at ends
    rw [← List.cons_inj_right sep, cons_joinWith_concat, ← List.cons_append, ← List.append_assoc, ← ends,
      List.cons_append]
  rw [← joined, pieces_joinWith (by simp)]
  intro p member
  have whole (q : List Char) (among : q ∈ init ++ [last]) : sep ∉ q :=
    not_mem_of_mem_pieces (shape ▸ among)
  obtain early | late := List.mem_append.mp member
  · exact whole p (List.mem_append_left _ early)
  · rw [List.mem_singleton.mp late, List.mem_append, not_or]
    exact ⟨whole last (List.mem_append_right _ List.mem_cons_self), absent⟩

theorem cut?_append {sep : Char} {front : List Char} (absent : sep ∉ front) (rest : List Char) :
    cut? sep (front ++ sep :: rest) = some (front, rest) := by
  induction front with
  | nil => exact if_pos rfl
  | cons c front ih =>
    have head : ¬ c = sep := fun same => absent (same ▸ List.mem_cons_self)
    have tail : sep ∉ front := fun member => absent (List.mem_cons_of_mem c member)
    rw [List.cons_append, cut?, if_neg head, ih tail]
    rfl

theorem eq_of_cut? {sep : Char} {s front rest : List Char} (cut : cut? sep s = some (front, rest)) :
    s = front ++ sep :: rest := by
  induction s generalizing front with
  | nil => cases cut
  | cons c s ih =>
    rw [cut?] at cut
    split at cut
    next same =>
      cases cut
      rw [same]
      rfl
    next =>
      obtain ⟨⟨before, behind⟩, found, parts⟩ := Option.map_eq_some_iff.mp cut
      cases parts
      exact congrArg (List.cons c) (ih found)

/-- The first separator ends the longest start without one. -/
theorem cut?_eq (sep : Char) (s : List Char) :
    cut? sep s =
      if sep ∈ s then some (s.takeWhile (· ≠ sep), (s.dropWhile (· ≠ sep)).tail) else none := by
  induction s with
  | nil => rfl
  | cons c s ih =>
    by_cases same : c = sep
    · simp [cut?, same]
    · rw [cut?, if_neg same, ih]
      by_cases later : sep ∈ s <;> simp [same, Ne.symm same, later]

end Text

end RemoteSurface
