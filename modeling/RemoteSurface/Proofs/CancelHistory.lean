import Mathlib.Logic.Relation
import RemoteSurface.Cancel
/-!
The history of a cancellation, told by operations alone: which handles and waits were made, which
handles clones lead between, which handles were cancelled, and which waits were answered.
-/
namespace RemoteSurface

namespace Cancel

/-- Whether an operation was performed after operations of some kind. -/
def Happened (past : List Op) (op : Op) (P : List Op → Prop) : Prop :=
  ∃ before after, past = before ++ op :: after ∧ P before

theorem happened_nil (op : Op) (P : List Op → Prop) : ¬ Happened [] op P := by
  rintro ⟨before, after, same, -⟩
  cases before <;> cases same

theorem happened_concat (past : List Op) (last op : Op) (P : List Op → Prop) :
    Happened (past ++ [last]) op P ↔ Happened past op P ∨ (last = op ∧ P past) := by
  constructor
  · rintro ⟨before, after, same, held⟩
    rcases List.eq_nil_or_concat after with rfl | ⟨init, final, rfl⟩
    · obtain ⟨rfl, here⟩ := List.append_inj' same rfl
      exact .inr ⟨(List.cons.inj here).1, held⟩
    · rw [List.concat_eq_append, ← List.cons_append, ← List.append_assoc] at same
      obtain ⟨rfl, -⟩ := List.append_inj' same rfl
      exact .inl ⟨before, init, rfl, held⟩
  · rintro (⟨before, after, rfl, held⟩ | ⟨rfl, held⟩)
    · exact ⟨before, after ++ [last], by simp, held⟩
    · exact ⟨past, [], rfl, held⟩

def makesHandle : Op → Bool
  | .clone _ => true
  | .new => true
  | _ => false

def makesWait : Op → Bool
  | .wait _ => true
  | _ => false

/-- How many handles there are: one at the start. -/
def handleCount (past : List Op) : Nat := past.countP makesHandle + 1

def waitCount (past : List Op) : Nat := past.countP makesWait

/-- A handle that was there was cloned to make another. -/
def Cloned (past : List Op) (source made : Nat) : Prop :=
  Happened past (.clone source) fun before =>
    source < handleCount before ∧ made = handleCount before

/-- Handles of one family: those that clones lead between. -/
def Related (past : List Op) : Nat → Nat → Prop := Relation.EqvGen (Cloned past)

/-- A handle that was there was cancelled. -/
def Called (past : List Op) (h : Nat) : Prop :=
  Happened past (.cancel h) fun before => h < handleCount before

/-- Some handle of the family was cancelled. -/
def Cancelled (past : List Op) (h : Nat) : Prop := ∃ g, Called past g ∧ Related past g h

/-- A wait was made on a handle that was there. -/
def Awaits (past : List Op) (i h : Nat) : Prop :=
  Happened past (.wait h) fun before => waitCount before = i ∧ h < handleCount before

/-- The handle of a wait was cancelled, or one of its family. -/
def Due (past : List Op) (i : Nat) : Prop := ∃ h, Awaits past i h ∧ Cancelled past h

/-- The state after operations from the start. -/
def world (past : List Op) : World := (performAll .start past).1

/-- A wait answered ready when it was polled before. -/
def Finished (past : List Op) (i : Nat) : Prop :=
  Happened past (.poll i) fun before => (perform (world before) (.poll i)).2 = .poll .ready

theorem handleCount_concat (past : List Op) (op : Op) :
    handleCount (past ++ [op]) = handleCount past + if makesHandle op then 1 else 0 := by
  rw [handleCount, List.countP_append, List.countP_singleton, handleCount]
  omega

theorem waitCount_concat (past : List Op) (op : Op) :
    waitCount (past ++ [op]) = waitCount past + if makesWait op then 1 else 0 := by
  rw [waitCount, List.countP_append, List.countP_singleton, waitCount]

theorem performAll_cons (w : World) (op : Op) (rest : List Op) :
    performAll w (op :: rest) =
      ((performAll (perform w op).1 rest).1,
        (perform w op).2 :: (performAll (perform w op).1 rest).2) := rfl

theorem performAll_append (w : World) (ops more : List Op) :
    performAll w (ops ++ more) =
      ((performAll (performAll w ops).1 more).1,
        (performAll w ops).2 ++ (performAll (performAll w ops).1 more).2) := by
  induction ops generalizing w with
  | nil => rfl
  | cons op rest ih =>
    rw [List.cons_append, performAll_cons, ih, performAll_cons]
    rfl

theorem length_performAll (w : World) (ops : List Op) :
    (performAll w ops).2.length = ops.length := by
  induction ops generalizing w with
  | nil => rfl
  | cons op rest ih => exact congrArg Nat.succ (ih (perform w op).1)

theorem world_concat (past : List Op) (op : Op) :
    world (past ++ [op]) = (perform (world past) op).1 := by
  rw [world, performAll_append]
  rfl

theorem Related.mono {past : List Op} {a b : Nat} (op : Op) (related : Related past a b) :
    Related (past ++ [op]) a b := by
  refine Relation.EqvGen.mono ?_ _ _ related
  intro s m cloned
  exact (happened_concat past op _ _).mpr (.inl cloned)

theorem called_concat {past : List Op} {op : Op} {g : Nat} :
    Called (past ++ [op]) g ↔ Called past g ∨ (op = .cancel g ∧ g < handleCount past) :=
  happened_concat past op _ _

theorem cloned_concat {past : List Op} {op : Op} {s m : Nat} :
    Cloned (past ++ [op]) s m ↔
      Cloned past s m ∨ (op = .clone s ∧ s < handleCount past ∧ m = handleCount past) :=
  happened_concat past op _ _

theorem awaits_concat {past : List Op} {op : Op} {i h : Nat} :
    Awaits (past ++ [op]) i h ↔
      Awaits past i h ∨ (op = .wait h ∧ waitCount past = i ∧ h < handleCount past) :=
  happened_concat past op _ _

theorem finished_concat {past : List Op} {op : Op} {i : Nat} :
    Finished (past ++ [op]) i ↔
      Finished past i ∨
        (op = .poll i ∧ (perform (world past) (.poll i)).2 = .poll .ready) :=
  happened_concat past op _ _

end Cancel

end RemoteSurface
