import RemoteSurface.Proofs.CancelHistory
/-!
Families of handles. A state numbers its families; the numbers of two handles are the same exactly if
clones lead between them, and the flag of a family is up exactly if one of its handles was cancelled.
-/
namespace RemoteSurface

namespace Cancel

/-- The handles of a state: one for each that was made, and of one family what clones lead
between. -/
structure HandlesTold (past : List Op) (w : World) : Prop where
  length : w.handles.length = handleCount past
  made : ∀ f ∈ w.handles, f < w.flags.length
  cloned : ∀ s m, Cloned past s m → ∃ f : Nat, w.handles[s]? = some f ∧ w.handles[m]? = some f
  related : ∀ a b f : Nat, w.handles[a]? = some f → w.handles[b]? = some f → Related past a b

/-- The flags of a state: the one of a family is up if one of its handles was cancelled. -/
structure FlagsTold (past : List Op) (w : World) : Prop where
  called : ∀ g, Called past g → g < w.handles.length
  raised : ∀ h f : Nat, w.handles[h]? = some f →
    (isRaised w f = true ↔ ∃ g : Nat, w.handles[g]? = some f ∧ Called past g)

theorem getElem?_concat_eq_some_iff {α : Type} {as : List α} {b c : α} {i : Nat} :
    (as ++ [b])[i]? = some c ↔ as[i]? = some c ∨ (i = as.length ∧ c = b) := by
  constructor
  · intro held
    rcases Nat.lt_trichotomy i as.length with less | rfl | greater
    · rw [List.getElem?_append_left less] at held
      exact .inl held
    · rw [List.getElem?_concat_length] at held
      exact .inr ⟨rfl, (Option.some.inj held).symm⟩
    · rw [List.getElem?_eq_none (by simpa using Nat.succ_le_of_lt greater)] at held
      cases held
  · rintro (held | ⟨rfl, rfl⟩)
    · rw [List.getElem?_append_left (List.getElem?_eq_some_iff.mp held).1]
      exact held
    · exact List.getElem?_concat_length

theorem isRaised_raise {w : World} {f : Nat} (made : f < w.flags.length) (g : Nat) :
    isRaised (raise w f) g = (g == f || isRaised w g) := by
  unfold raise
  by_cases up : isRaised w f = true
  · rw [if_pos up]
    by_cases same : g = f
    · rw [same, up, Bool.or_true]
    · simp [same]
  · rw [if_neg up, isRaised, isRaised, List.getElem?_set]
    by_cases same : f = g
    · subst same
      simp [made]
    · simp [same, Ne.symm same]

theorem raise_handles (w : World) (f : Nat) : (raise w f).handles = w.handles := by
  unfold raise
  split <;> rfl

theorem length_raise_flags (w : World) (f : Nat) : (raise w f).flags.length = w.flags.length := by
  unfold raise
  split
  · rfl
  · exact List.length_set

namespace HandlesTold

variable {past : List Op} {w : World}

/-- Handles of one family have one family number. -/
theorem family_eq (told : HandlesTold past w) {a b : Nat} (related : Related past a b) :
    w.handles[a]? = w.handles[b]? := by
  induction related with
  | rel s m cloned =>
    obtain ⟨f, left, right⟩ := told.cloned s m cloned
    rw [left, right]
  | refl a => rfl
  | symm a b _ ih => exact ih.symm
  | trans a b c _ _ first second => exact first.trans second

theorem keep (told : HandlesTold past w) {op : Op} (makes : makesHandle op = false) {v : World}
    (same : v.handles = w.handles) (more : w.flags.length ≤ v.flags.length) :
    HandlesTold (past ++ [op]) v where
  length := by
    rw [handleCount_concat, makes, same]
    exact told.length
  made := by
    intro f member
    exact Nat.lt_of_lt_of_le (told.made f (same ▸ member)) more
  cloned := by
    intro s m cloned
    rw [same]
    rcases cloned_concat.mp cloned with before | ⟨rfl, -, -⟩
    · exact told.cloned s m before
    · cases makes
  related := by
    intro a b f left right
    rw [same] at left right
    exact (told.related a b f left right).mono op

/-- The handle that is made is of the family of the handle that was cloned, or of a new family. -/
theorem add (told : HandlesTold past w) {op : Op} (makes : makesHandle op = true) {f : Nat}
    (made : f < w.flags.length)
    (source : (∃ h, op = .clone h ∧ w.handles[h]? = some f) ∨
      ((∀ h, op = .clone h → w.handles[h]? = none) ∧ f ∉ w.handles)) :
    HandlesTold (past ++ [op]) (addHandle w f).1 where
  length := by
    rw [handleCount_concat, makes]
    exact List.length_append.trans (congrArg (· + 1) told.length)
  made := by
    intro g member
    rcases List.mem_append.mp member with old | new
    · exact told.made g old
    · rw [List.mem_singleton.mp new]
      exact made
  cloned := by
    intro s m cloned
    simp only [addHandle, getElem?_concat_eq_some_iff]
    rcases cloned_concat.mp cloned with before | ⟨rfl, there, rfl⟩
    · obtain ⟨g, left, right⟩ := told.cloned s m before
      exact ⟨g, .inl left, .inl right⟩
    · rcases source with ⟨h, same, held⟩ | ⟨absent, -⟩
      · cases same
        exact ⟨f, .inl held, .inr ⟨told.length.symm, rfl⟩⟩
      · rw [← told.length] at there
        exact absurd there (Nat.not_lt.mpr (List.getElem?_eq_none_iff.mp (absent s rfl)))
  related := by
    -- Whoever is of the family of the new handle is related to it through the one it was cloned from.
    have newcomer {a : Nat} (held : w.handles[a]? = some f) :
        Related (past ++ [op]) a w.handles.length := by
      rcases source with ⟨h, rfl, there⟩ | ⟨-, absent⟩
      · have bound := (List.getElem?_eq_some_iff.mp there).1
        have edge : Cloned (past ++ [.clone h]) h w.handles.length :=
          cloned_concat.mpr (.inr ⟨rfl, told.length ▸ bound, told.length⟩)
        exact .trans _ _ _ ((told.related a h f held there).mono _) (.rel _ _ edge)
      · exact absurd (List.mem_of_getElem? held) absent
    intro a b g left right
    rcases getElem?_concat_eq_some_iff.mp left with old | ⟨rfl, rfl⟩
    · rcases getElem?_concat_eq_some_iff.mp right with older | ⟨rfl, rfl⟩
      · exact (told.related a b g old older).mono op
      · exact newcomer old
    · rcases getElem?_concat_eq_some_iff.mp right with old | ⟨rfl, -⟩
      · exact (newcomer old).symm
      · exact .refl _

end HandlesTold

namespace FlagsTold

variable {past : List Op} {w : World}

theorem keep (told : FlagsTold past w) {op : Op} (quiet : ∀ h, op ≠ .cancel h) {v : World}
    (same : v.handles = w.handles) (flags : ∀ f, isRaised v f = isRaised w f) :
    FlagsTold (past ++ [op]) v where
  called := by
    intro g called
    rw [same]
    exact told.called g ((called_concat.mp called).resolve_right fun last => quiet g last.1)
  raised := by
    intro h f held
    rw [same] at held ⊢
    simp only [flags, called_concat, quiet, false_and, or_false]
    exact told.raised h f held

theorem add (told : FlagsTold past w) {op : Op} (quiet : ∀ h, op ≠ .cancel h) {f : Nat}
    (source : f ∈ w.handles ∨ isRaised w f = false) :
    FlagsTold (past ++ [op]) (addHandle w f).1 where
  called := by
    intro g called
    have before := told.called g
      ((called_concat.mp called).resolve_right fun last => quiet g last.1)
    rw [addHandle, List.length_append]
    exact Nat.lt_add_right 1 before
  raised := by
    have old (g h : Nat) : (addHandle w f).1.handles[g]? = some h ∧ Called (past ++ [op]) g ↔
        w.handles[g]? = some h ∧ Called past g := by
      simp only [addHandle, getElem?_concat_eq_some_iff, called_concat, quiet, false_and, or_false]
      constructor
      · rintro ⟨held | ⟨rfl, -⟩, called⟩
        · exact ⟨held, called⟩
        · exact absurd (told.called _ called) (Nat.lt_irrefl _)
      · rintro ⟨held, called⟩
        exact ⟨.inl held, called⟩
    intro h g held
    simp only [old]
    rcases getElem?_concat_eq_some_iff.mp held with old | ⟨rfl, rfl⟩
    · exact told.raised h g old
    · by_cases member : g ∈ w.handles
      · obtain ⟨i, held⟩ := List.getElem?_of_mem member
        exact told.raised i g held
      · have down := source.resolve_left member
        constructor
        · intro up
          exact absurd (down.symm.trans up) Bool.false_ne_true
        · rintro ⟨i, held, -⟩
          exact absurd (List.mem_of_getElem? held) member

theorem raise (told : FlagsTold past w) {h f : Nat} (length : w.handles.length = handleCount past)
    (made : f < w.flags.length)
    (source : w.handles[h]? = some f ∨ (w.handles[h]? = none ∧ f ∉ w.handles)) :
    FlagsTold (past ++ [.cancel h]) (Cancel.raise w f) where
  called := by
    intro g called
    rw [raise_handles]
    rcases called_concat.mp called with before | ⟨-, there⟩
    · exact told.called g before
    · exact length ▸ there
  raised := by
    intro i g held
    rw [raise_handles] at held ⊢
    rw [isRaised_raise made, Bool.or_eq_true, told.raised i g held, beq_iff_eq]
    simp only [called_concat, ← length]
    rcases source with there | ⟨absent, unheld⟩
    · have bound := (List.getElem?_eq_some_iff.mp there).1
      constructor
      · rintro (rfl | ⟨j, same, before⟩)
        · exact ⟨h, there, .inr ⟨rfl, bound⟩⟩
        · exact ⟨j, same, .inl before⟩
      · rintro ⟨j, same, before | ⟨now, -⟩⟩
        · exact .inr ⟨j, same, before⟩
        · cases now
          exact .inl (Option.some.inj (same.symm.trans there))
    · have other : g ≠ f := by
        rintro rfl
        exact unheld (List.mem_of_getElem? held)
      have outside : ¬ h < w.handles.length :=
        Nat.not_lt.mpr (List.getElem?_eq_none_iff.mp absent)
      constructor
      · rintro (same | ⟨j, same, before⟩)
        · exact absurd same other
        · exact ⟨j, same, .inl before⟩
      · rintro ⟨j, same, before | ⟨now, inside⟩⟩
        · exact .inr ⟨j, same, before⟩
        · cases now
          exact absurd inside outside

end FlagsTold

end Cancel

end RemoteSurface
