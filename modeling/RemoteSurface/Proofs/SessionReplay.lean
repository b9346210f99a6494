import RemoteSurface.Proofs.SessionCourse
import RemoteSurface.Proofs.SurfaceHistory
/-!
Sessions as replays. However a session fares, and wherever it is cancelled, what its readers see is
the replay of the well-formed messages among the payloads taken so far; and those payloads are the
ones that the attempts requested deliver, one attempt after another.
-/
namespace RemoteSurface

namespace Moment

/-- The well-formed messages among the payloads taken so far. -/
def taken (ms : List Moment) : List ValidMessage := (payloads ms).filterMap ValidMessage.ofPayload?

theorem payloads_cons_of_none {m : Moment} (none : m.payload? = none) (ms : List Moment) :
    payloads (m :: ms) = payloads ms :=
  List.filterMap_cons_none none

theorem payloads_cons_of_some {m : Moment} {payload : String} (some : m.payload? = some payload)
    (ms : List Moment) : payloads (m :: ms) = payload :: payloads ms :=
  List.filterMap_cons_some some

theorem taken_applied {payload : String} {m : ValidMessage}
    (valid : ValidMessage.ofPayload? payload = some m) (published : Option Snapshot)
    (ms : List Moment) : taken (.applied payload published :: ms) = m :: taken ms := by
  rw [taken, payloads_cons_of_some rfl, List.filterMap_cons_some valid]
  rfl

theorem taken_refused {payload : String} (invalid : ValidMessage.ofPayload? payload = none)
    (report : Report) (ms : List Moment) :
    taken (.refused payload report :: ms) = taken ms := by
  rw [taken, payloads_cons_of_some rfl, List.filterMap_cons_none invalid]
  rfl

theorem taken_of_none {m : Moment} (noPayload : m.payload? = none) (ms : List Moment) :
    taken (m :: ms) = taken ms := by
  rw [taken, payloads_cons_of_none noPayload]
  rfl

/-- The snapshot that readers see after some moments, if they saw the given one before. -/
def snapshotFrom (s : Snapshot) (ms : List Moment) : Snapshot :=
  (ms.filterMap published?).getLastD s

theorem snapshotFrom_cons (s : Snapshot) (m : Moment) (ms : List Moment) :
    snapshotFrom s (m :: ms) = snapshotFrom (m.published?.getD s) ms := by
  unfold snapshotFrom
  cases told : m.published? with
  | none => rw [List.filterMap_cons_none told, Option.getD_none]
  | some next => rw [List.filterMap_cons_some told, List.getLastD_cons, Option.getD_some]

/-- What one moment makes of a snapshot and the next stamp: a payload is applied or refused as it
must be, a change is published, and nothing else happens to them. -/
inductive Step (s : Snapshot) (stamp : Nat) : Moment → Snapshot → Nat → Prop where
  | applied {payload : String} {m : ValidMessage}
    (valid : ValidMessage.ofPayload? payload = some m) :
    Step s stamp (.applied payload (s.change? stamp m)) ((s.change? stamp m).getD s) (stamp + 1)
  | refused {payload : String} {report : Report}
    (invalid : ValidMessage.ofPayload? payload = none) :
    Step s stamp (.refused payload report) s stamp
  | quiet {m : Moment} (noPayload : m.payload? = none) (silent : m.published? = none) :
    Step s stamp m s stamp

/-- Moments follow a snapshot and a stamp, and end with others, step by step. -/
inductive Follows : Snapshot → Nat → List Moment → Snapshot → Nat → Prop where
  | nil (s : Snapshot) (stamp : Nat) : Follows s stamp [] s stamp
  | cons {s next last : Snapshot} {stamp after final : Nat} {m : Moment} {rest : List Moment}
    (step : Step s stamp m next after) (later : Follows next after rest last final) :
    Follows s stamp (m :: rest) last final

namespace Step

variable {s t : Snapshot} {j k : Nat} {m : Moment}

theorem published (step : Step s j m t k) : m.published?.getD s = t := by
  cases step with
  | applied valid => rfl
  | refused invalid => rfl
  | quiet noPayload silent => rw [silent, Option.getD_none]

theorem before (step : Step s j m t k) (fresh : s.Before j) : t.Before k := by
  cases step with
  | @applied payload m valid =>
    rw [Snapshot.change?_getD fresh m]
    exact fresh.reduce m
  | refused invalid => exact fresh
  | quiet noPayload silent => exact fresh

/-- A step replays the message that it takes, if it takes one. -/
theorem replay (step : Step s j m t k) (fresh : s.Before j) (rest : List Moment) :
    s.replay (Snapshot.stampedFrom j (taken (m :: rest))) =
      t.replay (Snapshot.stampedFrom k (taken rest)) := by
  cases step with
  | @applied payload m valid =>
    rw [taken_applied valid, Snapshot.change?_getD fresh m]
    rfl
  | refused invalid => rw [taken_refused invalid]
  | quiet noPayload silent => rw [taken_of_none noPayload]

end Step

namespace Follows

variable {s t u : Snapshot} {j k l : Nat} {ms ns : List Moment}

theorem append (first : Follows s j ms t k) (second : Follows t k ns u l) :
    Follows s j (ms ++ ns) u l := by
  induction first with
  | nil s stamp => exact second
  | cons step _ ih => exact .cons step (ih second)

theorem quietly {m : Moment} (noPayload : m.payload? = none) (silent : m.published? = none)
    (told : Follows s j ms t k) : Follows s j (m :: ms) t k :=
  .cons (.quiet noPayload silent) told

/-- Moments that follow a snapshot do so up to every moment. -/
theorem of_prefix (told : Follows s j ms t k) {past : List Moment} (started : past <+: ms) :
    ∃ seen stamp, Follows s j past seen stamp := by
  induction told generalizing past with
  | nil s stamp =>
    rw [List.prefix_nil.mp started]
    exact ⟨s, stamp, .nil s stamp⟩
  | @cons s _ _ stamp _ _ _ _ step _ ih =>
    rcases List.prefix_cons_iff.mp started with rfl | ⟨past, rfl, begun⟩
    · exact ⟨s, stamp, .nil s stamp⟩
    · obtain ⟨seen, final, told⟩ := ih begun
      exact ⟨seen, final, .cons step told⟩

/-- The waits between the moments do not count. -/
theorem of_busy (told : Follows s j (busy ms) t k) : Follows s j ms t k := by
  induction ms generalizing s j with
  | nil => exact told
  | cons m ms ih =>
    cases waits : m.isWaiting with
    | true =>
      rw [eq_waiting waits] at told ⊢
      exact quietly rfl rfl (ih told)
    | false =>
      rw [busy_cons waits] at told
      cases told with
      | cons step later => exact .cons step (ih later)

theorem busy (told : Follows s j ms t k) : Follows s j (busy ms) t k := by
  induction told with
  | nil s stamp => exact .nil s stamp
  | @cons _ _ _ _ _ _ m rest step _ ih =>
    cases waits : m.isWaiting with
    | true =>
      obtain rfl := eq_waiting waits
      cases step
      exact ih
    | false =>
      rw [busy_cons waits]
      exact .cons step ih

/-- Readers of moments that follow a snapshot see its replay under the messages taken. -/
theorem snapshot_eq (told : Follows s j ms t k) (fresh : s.Before j) :
    snapshotFrom s ms = s.replay (Snapshot.stampedFrom j (taken ms)) := by
  induction told with
  | nil s stamp => rfl
  | @cons s _ _ _ _ _ m rest step _ ih =>
    rw [snapshotFrom_cons, step.published, ih (step.before fresh), step.replay fresh]

end Follows

/-- A session that is cancelled runs as it would, or closes where it waits. -/
theorem cancelled_eq (left : Nat) (ms : List Moment) :
    cancelled left ms = ms ∨
      ∃ past, past ++ [.waiting] <+: ms ∧
        cancelled left ms = past ++ [.waiting, .entered .closed] := by
  fun_induction cancelled left ms with
  | case1 left => exact Or.inl rfl
  | case2 rest => exact Or.inr ⟨[], ⟨rest, rfl⟩, rfl⟩
  | case3 left rest ih =>
    rcases ih with whole | ⟨past, started, closed⟩
    · exact Or.inl (congrArg (List.cons Moment.waiting) whole)
    · refine Or.inr ⟨.waiting :: past, List.cons_prefix_cons.mpr ⟨rfl, started⟩, ?_⟩
      exact congrArg (List.cons Moment.waiting) closed
  | case4 left m rest _ _ ih =>
    rcases ih with whole | ⟨past, started, closed⟩
    · exact Or.inl (congrArg (List.cons m) whole)
    · refine Or.inr ⟨m :: past, List.cons_prefix_cons.mpr ⟨rfl, started⟩, ?_⟩
      exact congrArg (List.cons m) closed

/-- A session that is cancelled has a part of its run behind it, and at most closes then. -/
theorem cancelled_cases (left : Nat) (ms : List Moment) :
    ∃ past, past <+: ms ∧
      (cancelled left ms = past ∨ cancelled left ms = past ++ [.entered .closed]) := by
  rcases cancelled_eq left ms with whole | ⟨past, started, closed⟩
  · exact ⟨ms, List.prefix_refl ms, Or.inl whole⟩
  · refine ⟨past ++ [.waiting], started, Or.inr ?_⟩
    rw [closed, List.append_assoc]
    rfl

end Moment

namespace Worker

open Moment (Follows)

/-- Handling a payload goes a step from what the worker holds to what it holds afterwards. -/
theorem handle_follows (w : Worker) (payload : String) :
    Follows w.snapshot w.stamp (w.handle payload).2 (w.handle payload).1.snapshot
      (w.handle payload).1.stamp := by
  rcases w.handle_cases payload with ⟨m, valid, handled⟩ | ⟨invalid, report, handled⟩
  · rw [handled, apply_eq]
    exact .cons (.applied valid) (.nil _ _)
  · rw [handled]
    apply Follows.cons (.refused invalid)
    exact .quietly rfl rfl (.quietly rfl rfl (.quietly rfl rfl (.nil _ _)))

theorem handleAll_follows (w : Worker) (payloads : List String) :
    Follows w.snapshot w.stamp (w.handleAll payloads).2 (w.handleAll payloads).1.snapshot
      (w.handleAll payloads).1.stamp := by
  induction payloads generalizing w with
  | nil => exact .nil _ _
  | cons payload rest ih => exact (w.handle_follows payload).append (ih _)

theorem attend_follows (w : Worker) (o : Outcome) :
    Follows w.snapshot w.stamp (w.attend o).2 (w.attend o).1.snapshot (w.attend o).1.stamp := by
  unfold attend
  split
  next failed => exact .nil _ _
  next payloads delivered =>
    exact .quietly rfl rfl (handleAll_follows { w with backoff := w.backoff.reset } payloads).busy

theorem course_follows (w : Worker) (os : List Outcome) :
    ∃ last final, Follows w.snapshot w.stamp (w.course os) last final := by
  induction os generalizing w with
  | nil => exact ⟨_, _, .quietly rfl rfl (.quietly rfl rfl (.nil _ _))⟩
  | cons o rest ih =>
    obtain ⟨tail, told, aftermath⟩ := w.course_cons o rest
    have reached : Follows w.snapshot w.stamp ([.entered .connecting, .requested] ++ (w.attend o).2)
        (w.attend o).1.snapshot (w.attend o).1.stamp :=
      .quietly rfl rfl (.quietly rfl rfl (w.attend_follows o))
    rw [told]
    generalize o.failure = failure at aftermath
    cases aftermath with
    | ended => exact ⟨_, _, reached.append (.quietly rfl rfl (.nil _ _))⟩
    | spent tried =>
      exact ⟨_, _, reached.append
        (.quietly rfl rfl (.quietly rfl rfl (.quietly rfl rfl (.nil _ _))))⟩
    | @again cause backoff delay tried =>
      obtain ⟨last, final, later⟩ := ih { (w.attend o).1 with backoff := backoff }
      exact ⟨last, final, reached.append
        (.quietly rfl rfl (.quietly rfl rfl (.quietly rfl rfl later)))⟩

end Worker

namespace Session

open Moment

/-- The histories of a session: its run if nobody cancels it, and what is left of that if somebody
does while it waits. -/
def MayRun (s : Session) (receipts : List Bool) (attempts : List Connection)
    (history : List Moment) : Prop :=
  history = s.run receipts attempts ∨ ∃ left, history = cancelled left (s.run receipts attempts)

theorem run_follows (s : Session) (receipts : List Bool) (attempts : List Connection) :
    ∃ last final, Follows .empty 0 (s.run receipts attempts) last final := by
  obtain ⟨last, final, told⟩ := (s.start receipts).course_follows
    (attempts.map (Connection.outcome (s.start receipts).idleTimeoutSeconds))
  rw [← Worker.busy_run] at told
  exact ⟨last, final, .quietly rfl rfl told.of_busy⟩

theorem history_follows {s : Session} {receipts : List Bool} {attempts : List Connection}
    {history : List Moment} (possible : s.MayRun receipts attempts history) :
    ∃ last final, Follows .empty 0 history last final := by
  obtain ⟨last, final, told⟩ := s.run_follows receipts attempts
  rcases possible with rfl | ⟨left, rfl⟩
  · exact ⟨last, final, told⟩
  · obtain ⟨past, started, whole | closed⟩ := cancelled_cases left (s.run receipts attempts)
    · rw [whole]
      exact told.of_prefix started
    · rw [closed]
      obtain ⟨seen, stamp, before⟩ := told.of_prefix started
      exact ⟨seen, stamp, before.append (.quietly rfl rfl (.nil _ _))⟩

/-- The course of a session from its first attempt on. -/
def course (s : Session) (receipts : List Bool) (attempts : List Connection) : List Moment :=
  (s.start receipts).course (attempts.map (Connection.outcome s.settings.idleTimeoutSeconds))

theorem busy_run (s : Session) (receipts : List Bool) (attempts : List Connection) :
    busy (s.run receipts attempts) = .entered .idle :: s.course receipts attempts :=
  congrArg (List.cons (Moment.entered .idle)) ((s.start receipts).busy_run attempts)

theorem requests_run (s : Session) (receipts : List Bool) (attempts : List Connection) :
    requests (s.run receipts attempts) = requests (s.course receipts attempts) := by
  rw [← requests_busy, busy_run]
  rfl

/-- Readers of a session see a replay at every moment of its histories. -/
theorem snapshot_history {s : Session} {receipts : List Bool} {attempts : List Connection}
    {history past : List Moment} (possible : s.MayRun receipts attempts history)
    (started : past <+: history) :
    snapshot past = Snapshot.empty.replay (Snapshot.stampedFrom 0 (taken past)) := by
  obtain ⟨last, final, told⟩ := history_follows possible
  obtain ⟨seen, stamp, toldSoFar⟩ := told.of_prefix started
  exact toldSoFar.snapshot_eq (Snapshot.empty_before 0)

/-- A run takes what the attempts that it requests deliver, one attempt after another. -/
theorem payloads_run (s : Session) (receipts : List Bool) (attempts : List Connection) :
    payloads (s.run receipts attempts) =
      (attempts.take (requests (s.run receipts attempts))).flatMap Connection.payloads := by
  have taken : payloads (s.run receipts attempts) = payloads (s.course receipts attempts) := by
    rw [← payloads_busy, busy_run]
    rfl
  rw [taken, requests_run, course, Worker.payloads_course, ← List.map_take, List.flatMap_map]
  simp only [Connection.outcome_delivered]

/-- A run makes no attempt after one that brings the word that the stream is over. -/
theorem requests_run_le (s : Session) (receipts : List Bool) {attempts : List Connection} {i : Nat}
    {c : Connection} (reached : attempts[i]? = some c) (ended : Frame.done ∈ c.frames) :
    requests (s.run receipts attempts) ≤ i + 1 := by
  rw [requests_run]
  apply Worker.requests_course_le
  · rw [List.getElem?_map, reached, Option.map_some]
  · exact (c.outcome_failure_iff _).mpr ended

end Session

end RemoteSurface
