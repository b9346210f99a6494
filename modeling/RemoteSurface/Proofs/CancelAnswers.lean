import Mathlib.Data.List.Induction
import RemoteSurface.Proofs.CancelWaits
/-!
Answers. Every operation keeps its state in step with the history, so what an operation answers after
others is known from those alone: a handle is cancelled if one of its family was, and no wake-up is
lost.
-/
namespace RemoteSurface

namespace Cancel

/-- A family of which there is neither a handle nor a wait. -/
structure Unused (w : World) (family : Nat) : Prop where
  made : family < w.flags.length
  noHandle : family ∉ w.handles
  noWait : ∀ a ∈ w.waits, a.family ≠ family
  down : isRaised w family = false

/-- A state that operations lead to. -/
structure Told (past : List Op) (w : World) : Prop where
  handles : HandlesTold past w
  flags : FlagsTold past w
  waits : WaitsTold past w

theorem isRaised_fresh (w : World) (f : Nat) : isRaised (fresh w).1 f = isRaised w f := by
  rw [isRaised, isRaised, fresh, List.getElem?_append]
  split
  next => rfl
  next beyond =>
    rw [List.getElem?_eq_none (Nat.not_lt.mp beyond)]
    cases f - w.flags.length <;> rfl

namespace Told

variable {past : List Op} {w : World}

theorem fresh (told : Told past w) : Told past (Cancel.fresh w).1 where
  handles :=
    { length := told.handles.length
      made := by
        intro f member
        rw [Cancel.fresh, List.length_append]
        exact Nat.lt_add_right 1 (told.handles.made f member)
      cloned := told.handles.cloned
      related := told.handles.related }
  flags :=
    { called := told.flags.called
      raised := by
        intro h f held
        rw [isRaised_fresh]
        exact told.flags.raised h f held }
  waits :=
    { length := told.waits.length
      made := by
        intro a member
        rw [Cancel.fresh, List.length_append]
        exact Nat.lt_add_right 1 (told.waits.made a member)
      awaits := told.waits.awaits
      lone := by
        intro i a held
        rw [isRaised_fresh]
        exact told.waits.lone i a held
      registered := by
        intro i a woken held stage
        rw [isRaised_fresh]
        exact told.waits.registered i a woken held stage
      finished := told.waits.finished }

theorem unused_fresh (told : Told past w) : Unused (Cancel.fresh w).1 w.flags.length where
  made := by
    rw [Cancel.fresh, List.length_append]
    exact Nat.lt_succ_self _
  noHandle := fun member => Nat.lt_irrefl _ (told.handles.made _ member)
  noWait := fun a member same => Nat.lt_irrefl _ (same ▸ told.waits.made a member)
  down := by
    rw [isRaised_fresh, isRaised, List.getElem?_eq_none (Nat.le_refl _)]
    rfl

theorem poll (told : Told past (world past)) (i : Nat) :
    Told (past ++ [.poll i]) (Cancel.poll (world past) i).1 := by
  have answer : (perform (world past) (.poll i)).2 = .poll (Cancel.poll (world past) i).2 := rfl
  rcases poll_cases (world past) i with ⟨still, unready⟩ | ⟨a, stage, held, under, moved, ready, woken⟩
  · rw [still]
    refine ⟨told.handles.keep rfl rfl (Nat.le_refl _), told.flags.keep (by simp) rfl fun _ => rfl,
      told.waits.stay ?_⟩
    rw [answer]
    exact fun same => unready (Answer.poll.inj same)
  · rw [moved]
    refine ⟨told.handles.keep rfl rfl (Nat.le_refl _), told.flags.keep (by simp) rfl fun _ => rfl,
      told.waits.moveTo held woken under ?_⟩
    rw [ready, answer]
    exact ⟨congrArg Answer.poll, Answer.poll.inj⟩

/-- The family of a handle: one that it has, or one that nothing else has. -/
theorem familyOf (told : Told past w) (h : Nat) :
    Told past (Cancel.familyOf w h).1 ∧
      ((Cancel.familyOf w h).1.handles[h]? = some (Cancel.familyOf w h).2 ∨
        ((Cancel.familyOf w h).1.handles[h]? = none ∧
          Unused (Cancel.familyOf w h).1 (Cancel.familyOf w h).2)) := by
  cases held : w.handles[h]? with
  | some f =>
    have known : Cancel.familyOf w h = (w, f) := by rw [Cancel.familyOf, held]
    rw [known]
    exact ⟨told, .inl held⟩
  | none =>
    have new : Cancel.familyOf w h = Cancel.fresh w := by rw [Cancel.familyOf, held]
    rw [new]
    exact ⟨told.fresh, .inr ⟨held, told.unused_fresh⟩⟩

theorem addHandle (told : Told past w) {op : Op} (makes : makesHandle op = true) {f : Nat}
    (source : (∃ h, op = .clone h ∧ w.handles[h]? = some f) ∨
      ((∀ h, op = .clone h → w.handles[h]? = none) ∧ Unused w f)) :
    Told (past ++ [op]) (Cancel.addHandle w f).1 := by
  have others : makesWait op = false ∧ (∀ h, op ≠ .cancel h) ∧ ∀ i, op ≠ .poll i := by
    cases op <;> cases makes <;> simp [makesWait]
  obtain ⟨noWait, noCancel, noPoll⟩ := others
  have grown (h g : Nat) (held : w.handles[h]? = some g) :
      (Cancel.addHandle w f).1.handles[h]? = some g :=
    getElem?_concat_eq_some_iff.mpr (.inl held)
  rcases source with ⟨h, same, held⟩ | ⟨absent, unused⟩
  · have member : f ∈ w.handles := List.mem_of_getElem? held
    refine ⟨told.handles.add makes (told.handles.made f member) (.inl ⟨h, same, held⟩),
      told.flags.add noCancel (.inl member),
      told.waits.keep noWait noPoll rfl (Nat.le_refl _) grown ?_ fun _ => rfl⟩
    intro g among
    rcases List.mem_append.mp among with old | new
    · exact .inl old
    · rw [List.mem_singleton.mp new]
      exact .inl member
  · refine ⟨told.handles.add makes unused.made (.inr ⟨absent, unused.noHandle⟩),
      told.flags.add noCancel (.inr unused.down),
      told.waits.keep noWait noPoll rfl (Nat.le_refl _) grown ?_ fun _ => rfl⟩
    intro g among
    rcases List.mem_append.mp among with old | new
    · exact .inl old
    · rw [List.mem_singleton.mp new]
      exact .inr unused.noWait

theorem raise (told : Told past w) {h f : Nat}
    (source : w.handles[h]? = some f ∨ (w.handles[h]? = none ∧ Unused w f)) :
    Told (past ++ [.cancel h]) (Cancel.raise w f) := by
  have length := length_raise_flags w f
  have handles : HandlesTold (past ++ [.cancel h]) (Cancel.raise w f) :=
    told.handles.keep rfl (raise_handles w f) (Nat.le_of_eq length.symm)
  rcases source with held | ⟨absent, unused⟩
  · have member : f ∈ w.handles := List.mem_of_getElem? held
    have made := told.handles.made f member
    exact ⟨handles, told.flags.raise told.handles.length made (.inl held),
      told.waits.raise made (.inl member)⟩
  · exact ⟨handles,
      told.flags.raise told.handles.length unused.made (.inr ⟨absent, unused.noHandle⟩),
      told.waits.raise unused.made (.inr unused.noWait)⟩

theorem check (told : Told past w) (h : Nat) : Told (past ++ [.check h]) w :=
  ⟨told.handles.keep rfl rfl (Nat.le_refl _), told.flags.keep (by simp) rfl fun _ => rfl,
    told.waits.keep rfl (by simp) rfl (Nat.le_refl _) (fun _ _ held => held)
      (fun _ member => .inl member) fun _ => rfl⟩

theorem addWait (told : Told past w) {h f : Nat}
    (source : w.handles[h]? = some f ∨ (w.handles[h]? = none ∧ Unused w f)) :
    Told (past ++ [.wait h]) { w with waits := w.waits ++ [{ family := f }] } := by
  refine ⟨told.handles.keep rfl rfl (Nat.le_refl _), told.flags.keep (by simp) rfl fun _ => rfl, ?_⟩
  rcases source with held | ⟨absent, unused⟩
  · exact told.waits.add told.handles.length (told.handles.made f (List.mem_of_getElem? held))
      (.inl held)
  · exact told.waits.add told.handles.length unused.made
      (.inr ⟨absent, unused.noHandle, unused.down⟩)

theorem perform (told : Told past (world past)) (op : Op) :
    Told (past ++ [op]) (perform (world past) op).1 := by
  cases op with
  | poll i => exact told.poll i
  | new => exact told.fresh.addHandle rfl (.inr ⟨by simp, told.unused_fresh⟩)
  | clone h =>
    obtain ⟨kept, source⟩ := told.familyOf h
    refine kept.addHandle rfl (source.imp ?_ ?_)
    · exact fun held => ⟨h, rfl, held⟩
    · rintro ⟨absent, unused⟩
      refine ⟨?_, unused⟩
      intro g same
      cases same
      exact absent
  | cancel h =>
    obtain ⟨kept, source⟩ := told.familyOf h
    exact ((kept.raise source).familyOf h).1
  | check h => exact (told.familyOf h).1.check h
  | wait h =>
    obtain ⟨kept, source⟩ := told.familyOf h
    exact kept.addWait source

theorem start : Told [] .start where
  handles :=
    { length := rfl
      made := by decide
      cloned := fun _ _ cloned => absurd cloned (happened_nil _ _)
      related := by
        intro a b f left right
        have first {c : Nat} (held : World.start.handles[c]? = some f) : c = 0 :=
          Nat.lt_one_iff.mp (List.getElem?_eq_some_iff.mp held).1
        rw [first left, first right]
        exact .refl 0 }
  flags :=
    { called := fun _ called => absurd called (happened_nil _ _)
      raised := by
        intro h f held
        have member : f ∈ World.start.handles := List.mem_of_getElem? held
        obtain rfl : f = 0 := List.mem_singleton.mp member
        constructor
        · exact fun up => absurd up (by decide)
        · rintro ⟨g, -, called⟩
          exact absurd called (happened_nil _ _) }
  waits :=
    { length := rfl
      made := by decide
      awaits := fun _ _ awaits => absurd awaits (happened_nil _ _)
      lone := fun _ _ held => by cases held
      registered := fun _ _ _ held => by cases held
      finished := by
        intro i
        constructor
        · exact fun finished => absurd finished (happened_nil _ _)
        · rintro ⟨a, held, -⟩
          cases held }

theorem isRaised_iff (told : Told past w) {h f : Nat} (held : w.handles[h]? = some f) :
    isRaised w f = true ↔ Cancelled past h := by
  rw [told.flags.raised h f held]
  constructor
  · rintro ⟨g, same, called⟩
    exact ⟨g, called, told.handles.related g h f same held⟩
  · rintro ⟨g, called, related⟩
    exact ⟨g, (told.handles.family_eq related).trans held, called⟩

theorem not_cancelled (told : Told past w) {h : Nat} (absent : w.handles[h]? = none) :
    ¬ Cancelled past h := by
  rintro ⟨g, called, related⟩
  have nothing : w.handles[g]? = none := (told.handles.family_eq related).trans absent
  exact absurd (told.flags.called g called) (Nat.not_lt.mpr (List.getElem?_eq_none_iff.mp nothing))

/-- What a look at a handle finds. -/
theorem isRaised_familyOf_iff (told : Told past w) (h : Nat) :
    isRaised (Cancel.familyOf w h).1 (Cancel.familyOf w h).2 = true ↔ Cancelled past h := by
  obtain ⟨kept, held | ⟨absent, unused⟩⟩ := told.familyOf h
  · exact kept.isRaised_iff held
  · rw [unused.down]
    exact iff_of_false Bool.false_ne_true (kept.not_cancelled absent)

theorem isRaised_iff_due (told : Told past w) {i : Nat} {a : Wait} (held : w.waits[i]? = some a) :
    isRaised w a.family = true ↔ Due past i := by
  have owner {h : Nat} (awaits : Awaits past i h) : w.handles[h]? = some a.family := by
    obtain ⟨b, known, family⟩ := told.waits.awaits i h awaits
    obtain rfl := Option.some.inj (known.symm.trans held)
    exact family
  constructor
  · intro up
    rcases told.waits.lone i a held with ⟨h, awaits⟩ | ⟨-, down⟩
    · exact ⟨h, awaits, (told.isRaised_iff (owner awaits)).mp up⟩
    · exact absurd (down.symm.trans up) Bool.false_ne_true
  · rintro ⟨h, awaits, cancelled⟩
    exact (told.isRaised_iff (owner awaits)).mpr cancelled

/-- A wait can be polled as long as it was made and is not over. -/
theorem polled (told : Told past w) (i : Nat) :
    ((Cancel.poll w i).2 ≠ .finished ↔ i < waitCount past ∧ ¬ Finished past i) ∧
      ((Cancel.poll w i).2 = .ready ↔
        (i < waitCount past ∧ ¬ Finished past i) ∧ Due past i) := by
  rw [told.waits.finished, ← told.waits.length]
  cases held : w.waits[i]? with
  | none =>
    have absent : ¬ i < w.waits.length := Nat.not_lt.mpr (List.getElem?_eq_none_iff.mp held)
    simp [Cancel.poll, absent]
  | some a =>
    have made : i < w.waits.length := (List.getElem?_eq_some_iff.mp held).1
    rw [poll_answer told.waits held, ← told.isRaised_iff_due held]
    by_cases ended : a.stage = .over
    · simp [ended]
    · cases up : isRaised w a.family <;> simp [ended, made]

end Told

theorem told_world (past : List Op) : Told past (world past) := by
  induction past using List.reverseRecOn with
  | nil => exact Told.start
  | append_singleton past op ih =>
    rw [world_concat]
    exact ih.perform op

/-- What an operation may answer after others. Only the operations decide: a handle is cancelled
if a handle of its family was, and a wait that is not over is ready if its handle is cancelled. -/
def Answers (past : List Op) (op : Op) (answer : Answer) : Prop :=
  match op with
  | .new => answer = .index (handleCount past)
  | .clone _ => answer = .index (handleCount past)
  | .wait _ => answer = .index (waitCount past)
  | .cancel h => ∃ b, answer = .flag b ∧ (b = true ↔ Cancelled (past ++ [.cancel h]) h)
  | .check h => ∃ b, answer = .flag b ∧ (b = true ↔ Cancelled past h)
  | .poll i => ∃ p, answer = .poll p ∧
      (p ≠ .finished ↔ i < waitCount past ∧ ¬ Finished past i) ∧
      (p = .ready ↔ (i < waitCount past ∧ ¬ Finished past i) ∧ Due past i)

theorem perform_answers (past : List Op) (op : Op) :
    Answers past op (perform (world past) op).2 := by
  have told := told_world past
  cases op with
  | new => exact congrArg Answer.index told.handles.length
  | clone h => exact congrArg Answer.index (told.familyOf h).1.handles.length
  | wait h => exact congrArg Answer.index (told.familyOf h).1.waits.length
  | cancel h =>
    obtain ⟨kept, source⟩ := told.familyOf h
    exact ⟨_, rfl, (kept.raise source).isRaised_familyOf_iff h⟩
  | check h => exact ⟨_, rfl, told.isRaised_familyOf_iff h⟩
  | poll i => exact ⟨_, rfl, told.polled i⟩

/-- Over every sequence of operations, each is answered, and as the operations before it say. -/
theorem operations_are_answered_by_history (past later : List Op) (op : Op) :
    ∃ answer, (performAll .start (past ++ op :: later)).2[past.length]? = some answer ∧
      Answers past op answer := by
  refine ⟨(perform (world past) op).2, ?_, perform_answers past op⟩
  have length : (performAll .start past).2.length = past.length := length_performAll _ past
  rw [performAll_append, List.getElem?_append_right (Nat.le_of_eq length), length, Nat.sub_self,
    performAll_cons]
  rfl

/-- A wait that was pending is ready after a clone of its handle was cancelled, and once only. -/
example : (performAll .start
    [.wait 0, .poll 0, .clone 0, .new, .cancel 1, .poll 0, .poll 0, .check 0, .check 2]).2 =
      [.index 0, .poll .pending, .index 1, .index 2, .flag true, .poll .ready, .poll .finished,
        .flag true, .flag false] := by
  decide

end Cancel

end RemoteSurface
