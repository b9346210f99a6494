import RemoteSurface.Proofs.ReconnectLimit
/-!
Why and when sessions close. A history of a session passes from phase to phase as phases may,
publishes only while it streams, and closes at most once, as its last moment. A session that nobody
cancels closes from streaming when the stream is over, and from reconnecting when its limit is
spent; anywhere else it closes only because it is cancelled while it waits.
-/
namespace RemoteSurface

theorem Phase.LeadsTo.ne_closed {p : Phase} (next : p.LeadsTo .closed) : p ≠ .closed := by
  rintro rfl
  cases next with
  | closes live => cases live

namespace Moment.Trail

theorem live_of_waiting {p q : Phase} {past : List Moment}
    (told : Trail p (past ++ [.waiting]) q) : q.isLive = true := by
  obtain ⟨r, _, last⟩ := told.split
  cases last with
  | cons step later =>
    cases later
    cases step with
    | waits live => exact live

end Moment.Trail

namespace Session

open Moment Connection

variable {s : Session} {receipts : List Bool} {attempts : List Connection}
  {history : List Moment}

/-- How the moments of a history end after the first: the session waits for the reply to its last
request, or it closes, by itself or because it is cancelled where it waits. -/
inductive Told (s : Session) (receipts : List Bool) (attempts : List Connection) :
    List Moment → Prop where
  | pending {past : List Moment} (trail : Trail .idle past .connecting)
    (whole : s.run receipts attempts = .entered .idle :: (past ++ [.waiting]))
    (beyond : attempts.length < requests (s.run receipts attempts)) :
    Told s receipts attempts (past ++ [.waiting])
  | ended {past : List Moment} {p : Phase} (trail : Trail .idle past p) (next : p.LeadsTo .closed)
    (whole : s.run receipts attempts = .entered .idle :: (past ++ [.entered .closed])) :
    Told s receipts attempts (past ++ [.entered .closed])
  | cancelled {past : List Moment} {p : Phase} (trail : Trail .idle (past ++ [.waiting]) p)
    (next : p.LeadsTo .closed)
    (part : .entered .idle :: (past ++ [.waiting]) <+: s.run receipts attempts) :
    Told s receipts attempts (past ++ [.waiting] ++ [.entered .closed])

theorem MayRun.told (possible : s.MayRun receipts attempts history) :
    ∃ told, history = .entered .idle :: told ∧ Told s receipts attempts told := by
  obtain ⟨told, begun, ends⟩ := s.run_ends receipts attempts
  have whole : Told s receipts attempts told := by
    cases ends with
    | @pending _ past trail requested =>
      have count : requests (s.run receipts attempts) = attempts.length + 1 := by
        rw [begun, ← requested]
        exact requests_append past [.waiting]
      exact .pending trail begun (by rw [count]; exact Nat.lt_succ_self _)
    | closed trail requested why => exact .ended trail why.closes begun
  rcases possible with rfl | ⟨left, rfl⟩
  · exact ⟨told, begun, whole⟩
  · rcases cancelled_eq left (s.run receipts attempts) with same | ⟨past, part, closed⟩
    · rw [same]
      exact ⟨told, begun, whole⟩
    · rw [begun] at part
      cases past with
      | nil => cases (List.cons_prefix_cons.mp part).1
      | cons m past =>
        obtain ⟨rfl, ⟨more, rfl⟩⟩ := List.cons_prefix_cons.mp part
        obtain ⟨q, trail⟩ := ends.trail
        obtain ⟨p, before, _⟩ := trail.split
        refine ⟨past ++ [.waiting] ++ [.entered .closed], ?_, ?_⟩
        · rw [closed, List.append_assoc]
          rfl
        · rw [← begun] at part
          exact .cancelled before (.closes before.live_of_waiting) part

namespace Told

variable {told : List Moment}

theorem trail (ends : Told s receipts attempts told) : ∃ p, Trail .idle told p := by
  cases ends with
  | pending trail whole beyond => exact ⟨.connecting, trail.concat (.waits rfl)⟩
  | ended trail next whole => exact ⟨.closed, trail.concat (.enters next)⟩
  | cancelled trail next part => exact ⟨.closed, trail.concat (.enters next)⟩

theorem isChain (ends : Told s receipts attempts told) :
    List.IsChain Phase.LeadsTo (.idle :: phases told) := by
  obtain ⟨p, trail⟩ := ends.trail
  exact trail.isChain

theorem streaming_of_published (ends : Told s receipts attempts told) {before after : List Moment}
    {m : Moment} (parts : .entered .idle :: told = before ++ m :: after)
    (published : m.published?.isSome = true) : currentPhase before = .streaming := by
  obtain ⟨p, trail⟩ := ends.trail
  cases before with
  | nil =>
    obtain rfl := (List.cons.inj parts).1
    cases published
  | cons first before =>
    obtain ⟨rfl, rfl⟩ := List.cons.inj parts
    obtain ⟨q, earlier, later⟩ := trail.split
    cases later with
    | cons step _ =>
      rw [currentPhase_of_trail earlier]
      exact step.streaming_of_published published

end Told

theorem closed_not_mem_phases {ms : List Moment} {p : Phase} (trail : Trail .idle ms p)
    (notClosed : p ≠ .closed) : Phase.closed ∉ phases (.entered .idle :: ms) := by
  intro member
  rcases List.mem_cons.mp member with never | there
  · cases never
  · exact trail.closed_not_mem notClosed there

/-- A session that nobody cancels closes when the stream is over or when its limit is spent. -/
theorem closing_of_run {past : List Moment}
    (closes : s.run receipts attempts = past ++ [.entered .closed]) :
    (currentPhase past = .streaming ∧
        ∃ c, (attempts.take (requests (s.run receipts attempts))).getLast? = some c ∧
          Frame.done ∈ c.frames) ∨
      (currentPhase past = .reconnecting ∧ 0 < s.settings.maxReconnectAttempts ∧
        failedReconnects (attempts.take (requests (s.run receipts attempts))) =
          s.settings.maxReconnectAttempts) := by
  obtain ⟨told, begun, ends⟩ := s.run_ends receipts attempts
  cases ends with
  | @pending _ front trail requested =>
    rw [begun, ← List.cons_append] at closes
    cases (List.append_inj' closes rfl).2
  | @closed made rest c front p trail requested why =>
    have same : past = .entered .idle :: front := by
      rw [begun, ← List.cons_append] at closes
      exact (List.append_inj' closes rfl).1.symm
    have count : requests (s.run receipts (made ++ c :: rest)) = made.length + 1 := by
      rw [begun, ← requested]
      exact requests_append front [.entered .closed]
    have taken : (made ++ c :: rest).take (made.length + 1) = made ++ [c] := by
      rw [List.take_length_add_append]
      rfl
    rw [same, currentPhase_of_trail trail]
    cases why with
    | finished done =>
      rw [count, taken]
      exact Or.inl ⟨rfl, c, List.getLast?_concat, done⟩
    | spent lost =>
      have within : requests (s.run receipts (made ++ c :: rest)) ≤ (made ++ c :: rest).length := by
        rw [count, List.length_append, List.length_cons]
        omega
      have lostAll : ∀ d ∈ (made ++ c :: rest).take (requests (s.run receipts (made ++ c :: rest))),
          Frame.done ∉ d.frames := by
        have reached := (s.lt_requests_run_iff receipts (made ++ c :: rest) made.length).mp
          (by rw [count]; exact Nat.lt_succ_self _)
        rw [List.take_left' rfl] at reached
        rw [count, taken]
        exact List.forall_mem_append.mpr ⟨reached.2.1, List.forall_mem_singleton.mpr lost⟩
      -- A limit that is none, or too high to be counted to, would let another request go out.
      have bounded : ¬ (s.settings.maxReconnectAttempts = 0 ∨
          Backoff.countLimit ≤ s.settings.maxReconnectAttempts) := by
        intro unbounded
        refine Nat.lt_irrefl _ ((s.lt_requests_run_iff receipts _ _).mpr ⟨within, lostAll, ?_⟩)
        exact unbounded.imp_right Or.inl
      obtain ⟨limited, countable⟩ := not_or.mp bounded
      have positive := Nat.pos_of_ne_zero limited
      exact Or.inr ⟨rfl, positive,
        failedReconnects_of_over positive (Nat.not_le.mp countable) within lostAll⟩

/-- However a session fares, and wherever it is cancelled, its phases start with the idle one and
follow one another as phases may, and it publishes only while it streams. It is left waiting for the
reply to a request beyond the attempts, or it closes, as the last thing of all and never before: by
itself at the end of its run, or because it is cancelled where its run waits. By itself it closes
from streaming, after an attempt that brought the word that the stream is over, or from
reconnecting, with its limit of reconnects spent. -/
theorem sessions_close_once (s : Session) (receipts : List Bool) (attempts : List Connection) :
    (∀ history, s.MayRun receipts attempts history →
      (∃ later, phases history = .idle :: later ∧ List.IsChain Phase.LeadsTo (.idle :: later)) ∧
      (∀ before m after, history = before ++ m :: after → m.published?.isSome = true →
        currentPhase before = .streaming) ∧
      ((∃ past, history = past ++ [.waiting] ∧ Phase.closed ∉ phases history ∧
          history = s.run receipts attempts ∧ attempts.length < requests history) ∨
        ∃ past, history = past ++ [.entered .closed] ∧ Phase.closed ∉ phases past ∧
          (history = s.run receipts attempts ∨
            ∃ before, past = before ++ [.waiting] ∧ past <+: s.run receipts attempts))) ∧
    ∀ past, s.run receipts attempts = past ++ [.entered .closed] →
      (currentPhase past = .streaming ∧
        ∃ c, (attempts.take (requests (s.run receipts attempts))).getLast? = some c ∧
          Frame.done ∈ c.frames) ∨
      (currentPhase past = .reconnecting ∧ 0 < s.settings.maxReconnectAttempts ∧
        failedReconnects (attempts.take (requests (s.run receipts attempts))) =
          s.settings.maxReconnectAttempts) := by
  refine ⟨?_, fun past closes => closing_of_run closes⟩
  intro history possible
  obtain ⟨told, rfl, ends⟩ := possible.told
  refine ⟨⟨phases told, rfl, ends.isChain⟩, ?_, ?_⟩
  · intro before m after parts published
    exact ends.streaming_of_published parts published
  · cases ends with
    | @pending past trail whole beyond =>
      refine Or.inl ⟨.entered .idle :: past, rfl, ?_, whole.symm, whole ▸ beyond⟩
      exact closed_not_mem_phases (trail.concat (.waits rfl)) Phase.noConfusion
    | @ended past p trail next whole =>
      refine Or.inr ⟨.entered .idle :: past, rfl, ?_, Or.inl whole.symm⟩
      exact closed_not_mem_phases trail next.ne_closed
    | @cancelled past p trail next part =>
      refine Or.inr ⟨.entered .idle :: (past ++ [.waiting]), rfl, ?_,
        Or.inr ⟨.entered .idle :: past, rfl, part⟩⟩
      exact closed_not_mem_phases trail next.ne_closed

end Session

end RemoteSurface
