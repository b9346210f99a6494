import RemoteSurface.Proofs.CancelFamilies
/-!
Waits. A wait that is registered is woken exactly if the flag of its family is up, whichever of the
two came first: registering looks at the flag, and raising the flag wakes what is registered.
-/
namespace RemoteSurface

namespace Cancel

/-- The waits of a state. A wait on a handle that was never made is of a family of its own, whose
flag stays down. -/
structure WaitsTold (past : List Op) (w : World) : Prop where
  length : w.waits.length = waitCount past
  made : ∀ a ∈ w.waits, a.family < w.flags.length
  awaits : ∀ i h : Nat, Awaits past i h →
    ∃ a : Wait, w.waits[i]? = some a ∧ w.handles[h]? = some a.family
  lone : ∀ (i : Nat) (a : Wait), w.waits[i]? = some a → (∃ h, Awaits past i h) ∨
    (a.family ∉ w.handles ∧ isRaised w a.family = false)
  registered : ∀ (i : Nat) (a : Wait) (woken : Bool), w.waits[i]? = some a →
    a.stage = .registered woken → woken = isRaised w a.family
  finished : ∀ i, Finished past i ↔ ∃ a : Wait, w.waits[i]? = some a ∧ a.stage = .over

theorem wake_family (f : Nat) (a : Wait) : (wake f a).family = a.family := by
  unfold wake
  split
  · split <;> rfl
  · rfl

namespace WaitsTold

variable {past : List Op} {w : World}

theorem keep (told : WaitsTold past w) {op : Op} (quiet : makesWait op = false)
    (unpolled : ∀ i, op ≠ .poll i) {v : World} (same : v.waits = w.waits)
    (more : w.flags.length ≤ v.flags.length)
    (handles : ∀ h f : Nat, w.handles[h]? = some f → v.handles[h]? = some f)
    (families : ∀ f ∈ v.handles, f ∈ w.handles ∨ ∀ a ∈ w.waits, a.family ≠ f)
    (flags : ∀ f, isRaised v f = isRaised w f) : WaitsTold (past ++ [op]) v where
  length := by
    rw [waitCount_concat, quiet, same]
    exact told.length
  made := by
    intro a member
    rw [same] at member
    exact Nat.lt_of_lt_of_le (told.made a member) more
  awaits := by
    intro i h awaits
    have before : Awaits past i h := by
      refine (awaits_concat.mp awaits).resolve_right ?_
      rintro ⟨rfl, -, -⟩
      cases quiet
    obtain ⟨a, held, owner⟩ := told.awaits i h before
    rw [same]
    exact ⟨a, held, handles h a.family owner⟩
  lone := by
    intro i a held
    rw [same] at held
    rcases told.lone i a held with ⟨h, before⟩ | ⟨absent, down⟩
    · exact .inl ⟨h, awaits_concat.mpr (.inl before)⟩
    · refine .inr ⟨?_, (flags a.family).trans down⟩
      intro member
      rcases families a.family member with old | new
      · exact absent old
      · exact new a (List.mem_of_getElem? held) rfl
  registered := by
    intro i a woken held stage
    rw [same] at held
    rw [flags]
    exact told.registered i a woken held stage
  finished := by
    intro i
    rw [same, finished_concat, or_iff_left fun last => unpolled i last.1]
    exact told.finished i

theorem add (told : WaitsTold past w) (length : w.handles.length = handleCount past) {h f : Nat}
    (made : f < w.flags.length)
    (source : w.handles[h]? = some f ∨
      (w.handles[h]? = none ∧ f ∉ w.handles ∧ isRaised w f = false)) :
    WaitsTold (past ++ [.wait h]) { w with waits := w.waits ++ [{ family := f }] } where
  length := by
    rw [waitCount_concat]
    exact List.length_append.trans (congrArg (· + 1) told.length)
  made := by
    intro a member
    rcases List.mem_append.mp member with old | new
    · exact told.made a old
    · rw [List.mem_singleton.mp new]
      exact made
  awaits := by
    intro i g awaits
    simp only [getElem?_concat_eq_some_iff]
    rcases awaits_concat.mp awaits with before | ⟨same, rfl, there⟩
    · obtain ⟨a, held, owner⟩ := told.awaits i g before
      exact ⟨a, .inl held, owner⟩
    · cases same
      rcases source with owner | ⟨absent, -, -⟩
      · exact ⟨{ family := f }, .inr ⟨told.length.symm, rfl⟩, owner⟩
      · rw [← length] at there
        exact absurd there (Nat.not_lt.mpr (List.getElem?_eq_none_iff.mp absent))
  lone := by
    intro i a held
    rcases getElem?_concat_eq_some_iff.mp held with old | ⟨rfl, rfl⟩
    · refine (told.lone i a old).imp ?_ id
      rintro ⟨g, before⟩
      exact ⟨g, awaits_concat.mpr (.inl before)⟩
    · rcases source with owner | ⟨-, absent, down⟩
      · have bound := (List.getElem?_eq_some_iff.mp owner).1
        exact .inl ⟨h, awaits_concat.mpr (.inr ⟨rfl, told.length.symm, length ▸ bound⟩)⟩
      · exact .inr ⟨absent, down⟩
  registered := by
    intro i a woken held stage
    rcases getElem?_concat_eq_some_iff.mp held with old | ⟨-, rfl⟩
    · exact told.registered i a woken old stage
    · cases stage
  finished := by
    intro i
    rw [finished_concat, told.finished i]
    simp only [getElem?_concat_eq_some_iff]
    constructor
    · rintro (⟨a, held, ended⟩ | ⟨last, -⟩)
      · exact ⟨a, .inl held, ended⟩
      · cases last
    · rintro ⟨a, held | ⟨-, rfl⟩, ended⟩
      · exact .inl ⟨a, held, ended⟩
      · cases ended

theorem raise (told : WaitsTold past w) {h f : Nat} (made : f < w.flags.length)
    (source : f ∈ w.handles ∨ ∀ a ∈ w.waits, a.family ≠ f) :
    WaitsTold (past ++ [.cancel h]) (Cancel.raise w f) := by
  by_cases up : isRaised w f = true
  · rw [Cancel.raise, if_pos up]
    exact told.keep rfl (by simp) rfl (Nat.le_refl _) (fun _ _ held => held)
      (fun _ member => .inl member) (fun _ => rfl)
  have waits : (Cancel.raise w f).waits = w.waits.map (wake f) := by
    rw [Cancel.raise, if_neg up]
  have before {i : Nat} {b : Wait} (held : (Cancel.raise w f).waits[i]? = some b) :
      ∃ a, w.waits[i]? = some a ∧ wake f a = b := by
    rw [waits, List.getElem?_map] at held
    exact Option.map_eq_some_iff.mp held
  have same (a : Wait) : (wake f a).stage = .over ↔ a.stage = .over := by
    unfold wake
    split
    next known => split <;> simp [known]
    next => rfl
  refine ⟨?_, ?_, ?_, ?_, ?_, ?_⟩
  · rw [waits, List.length_map, waitCount_concat]
    exact told.length
  · intro b member
    rw [waits] at member
    obtain ⟨a, old, rfl⟩ := List.mem_map.mp member
    rw [wake_family, length_raise_flags]
    exact told.made a old
  · intro i g awaits
    have old : Awaits past i g := (awaits_concat.mp awaits).resolve_right fun last => by cases last.1
    obtain ⟨a, held, owner⟩ := told.awaits i g old
    refine ⟨wake f a, ?_, ?_⟩
    · rw [waits, List.getElem?_map, held]
      rfl
    · rw [raise_handles, wake_family]
      exact owner
  · intro i b held
    obtain ⟨a, old, rfl⟩ := before held
    rw [raise_handles, wake_family]
    rcases told.lone i a old with ⟨g, awaits⟩ | ⟨absent, down⟩
    · exact .inl ⟨g, awaits_concat.mpr (.inl awaits)⟩
    · have other : a.family ≠ f := by
        rcases source with member | unwaited
        · rintro rfl
          exact absent member
        · exact unwaited a (List.mem_of_getElem? old)
      refine .inr ⟨absent, ?_⟩
      rw [isRaised_raise made, down, Bool.or_false, beq_eq_false_iff_ne]
      exact other
  · intro i b woken held stage
    obtain ⟨a, old, rfl⟩ := before held
    rw [wake_family, isRaised_raise made]
    unfold wake at stage
    split at stage
    next earlier known =>
      split at stage
      next same =>
        rw [same, beq_self_eq_true, Bool.true_or]
        cases stage
        rfl
      next other =>
        rw [beq_eq_false_iff_ne.mpr other, Bool.false_or]
        exact told.registered i a woken old stage
    next unregistered => exact absurd stage (unregistered woken)
  · intro i
    rw [finished_concat, told.finished i, waits]
    simp only [List.getElem?_map, Option.map_eq_some_iff]
    constructor
    · rintro (⟨a, held, ended⟩ | ⟨last, -⟩)
      · exact ⟨wake f a, ⟨a, held, rfl⟩, (same a).mpr ended⟩
      · cases last
    · rintro ⟨b, ⟨a, held, rfl⟩, ended⟩
      exact .inl ⟨a, held, (same a).mp ended⟩

/-- A poll that does not answer ready. -/
theorem stay (told : WaitsTold past w) {i : Nat}
    (unready : (perform (world past) (.poll i)).2 ≠ .poll .ready) :
    WaitsTold (past ++ [.poll i]) w where
  length := by
    rw [waitCount_concat]
    exact told.length
  made := told.made
  awaits := by
    intro j h awaits
    exact told.awaits j h ((awaits_concat.mp awaits).resolve_right fun last => by cases last.1)
  lone := by
    intro j a held
    refine (told.lone j a held).imp ?_ id
    rintro ⟨h, awaits⟩
    exact ⟨h, awaits_concat.mpr (.inl awaits)⟩
  registered := told.registered
  finished := by
    intro j
    rw [finished_concat, or_iff_left]
    · exact told.finished j
    · rintro ⟨same, ready⟩
      cases same
      exact unready ready

/-- A poll that moves a wait on. -/
theorem moveTo (told : WaitsTold past w) {i : Nat} {a : Wait} (held : w.waits[i]? = some a)
    {stage : Stage} (woken : ∀ b, stage = .registered b → b = isRaised w a.family)
    (under : a.stage ≠ .over)
    (ready : stage = .over ↔ (perform (world past) (.poll i)).2 = .poll .ready) :
    WaitsTold (past ++ [.poll i]) { w with waits := w.waits.set i { a with stage := stage } } := by
  have bound : i < w.waits.length := (List.getElem?_eq_some_iff.mp held).1
  have moved {j : Nat} {b : Wait} :
      (w.waits.set i { a with stage := stage })[j]? = some b ↔
        (j = i ∧ b = { a with stage := stage }) ∨ (j ≠ i ∧ w.waits[j]? = some b) := by
    by_cases same : i = j
    · subst same
      simp [bound, eq_comm]
    · simp [List.getElem?_set_ne same, Ne.symm same]
  refine ⟨?_, ?_, ?_, ?_, ?_, ?_⟩
  · rw [waitCount_concat]
    exact List.length_set.trans told.length
  · intro b member
    rcases List.mem_or_eq_of_mem_set member with old | rfl
    · exact told.made b old
    · exact told.made a (List.mem_of_getElem? held)
  · intro j h awaits
    have old : Awaits past j h := (awaits_concat.mp awaits).resolve_right fun last => by cases last.1
    obtain ⟨b, known, owner⟩ := told.awaits j h old
    by_cases same : j = i
    · subst same
      obtain rfl := Option.some.inj (held.symm.trans known)
      exact ⟨_, moved.mpr (.inl ⟨rfl, rfl⟩), owner⟩
    · exact ⟨b, moved.mpr (.inr ⟨same, known⟩), owner⟩
  · intro j b known
    have old : (∃ h, Awaits past j h) ∨ (b.family ∉ w.handles ∧ isRaised w b.family = false) := by
      rcases moved.mp known with ⟨rfl, rfl⟩ | ⟨-, there⟩
      · exact told.lone j a held
      · exact told.lone j b there
    refine old.imp ?_ id
    rintro ⟨h, awaits⟩
    exact ⟨h, awaits_concat.mpr (.inl awaits)⟩
  · intro j b up known registered
    rcases moved.mp known with ⟨rfl, rfl⟩ | ⟨-, there⟩
    · exact woken up registered
    · exact told.registered j b up there registered
  · intro j
    rw [finished_concat, told.finished j]
    simp only [moved]
    constructor
    · rintro (⟨b, there, ended⟩ | ⟨same, answered⟩)
      · have apart : j ≠ i := by
          rintro rfl
          obtain rfl := Option.some.inj (held.symm.trans there)
          exact under ended
        exact ⟨b, .inr ⟨apart, there⟩, ended⟩
      · cases same
        exact ⟨_, .inl ⟨rfl, rfl⟩, ready.mpr answered⟩
    · rintro ⟨b, ⟨rfl, rfl⟩ | ⟨-, there⟩, ended⟩
      · exact .inr ⟨rfl, ready.mp ended⟩
      · exact .inl ⟨b, there, ended⟩

end WaitsTold

/-- What a poll answers: that the wait is over, or else whether the flag of its family is up. -/
theorem poll_answer {past : List Op} {w : World} (told : WaitsTold past w) {i : Nat} {a : Wait}
    (held : w.waits[i]? = some a) :
    (poll w i).2 = if a.stage = .over then .finished
      else if isRaised w a.family = true then .ready else .pending := by
  rw [poll, held]
  match stage : a.stage with
  | .over => simp [stage]
  | .unpolled => cases up : isRaised w a.family <;> simp [stage, up]
  | .registered woken =>
    rw [← told.registered i a woken held stage]
    cases woken <;> simp [stage]

/-- What a poll can do: leave everything as it is and not answer ready, or move on a wait that is
not over. -/
theorem poll_cases (w : World) (i : Nat) :
    ((poll w i).1 = w ∧ (poll w i).2 ≠ .ready) ∨
      ∃ (a : Wait) (stage : Stage), w.waits[i]? = some a ∧ a.stage ≠ .over ∧
        (poll w i).1 = { w with waits := w.waits.set i { a with stage := stage } } ∧
        (stage = .over ↔ (poll w i).2 = .ready) ∧
        ∀ woken, stage = .registered woken → woken = isRaised w a.family := by
  cases held : w.waits[i]? with
  | none =>
    left
    simp [poll, held]
  | some a =>
    match stage : a.stage with
    | .over =>
      left
      simp [poll, held, stage]
    | .unpolled =>
      right
      cases up : isRaised w a.family with
      | true => exact ⟨a, .over, rfl, by simp [stage], by simp [poll, held, stage, up]⟩
      | false => exact ⟨a, .registered false, rfl, by simp [stage], by simp [poll, held, stage, up]⟩
    | .registered woken =>
      cases woken with
      | true =>
        right
        exact ⟨a, .over, rfl, by simp [stage], by simp [poll, held, stage]⟩
      | false =>
        left
        simp [poll, held, stage]

end Cancel

end RemoteSurface
