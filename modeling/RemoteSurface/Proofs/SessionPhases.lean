import Mathlib.Data.List.Chain
import RemoteSurface.Proofs.SessionReplay
/-!
Phases of a session. What happens at a moment depends on the phase: requests for the stream go out
while a session connects, payloads are taken and reports are sent while it streams, and it sleeps
while it reconnects. A run goes from phase to phase in this way until it closes, and a run that does
not close is left waiting for the reply to its last request.
-/
namespace RemoteSurface

namespace Phase

/-- Whether a session is under way. -/
def isLive : Phase → Bool
  | idle => false
  | closed => false
  | _ => true

/-- The phases that may come next after a phase. -/
inductive LeadsTo : Phase → Phase → Prop where
  | begins : LeadsTo .idle .connecting
  | opens : LeadsTo .connecting .streaming
  | fails : LeadsTo .connecting .reconnecting
  | breaks : LeadsTo .streaming .reconnecting
  | retries : LeadsTo .reconnecting .connecting
  | closes {p : Phase} (live : p.isLive = true) : LeadsTo p .closed

end Phase

namespace Moment

/-- What may happen in a phase, and the phase after it. -/
inductive Passes : Phase → Moment → Phase → Prop where
  | enters {p q : Phase} (next : p.LeadsTo q) : Passes p (.entered q) q
  | waits {p : Phase} (live : p.isLive = true) : Passes p .waiting p
  | requests : Passes .connecting .requested .connecting
  | applies (payload : String) (published : Option Snapshot) :
    Passes .streaming (.applied payload published) .streaming
  | refuses (payload : String) (report : Report) :
    Passes .streaming (.refused payload report) .streaming
  | reports (report : Report) (received : Bool) :
    Passes .streaming (.reported report received) .streaming
  | loses {p : Phase} (connected : p = .connecting ∨ p = .streaming) (cause : StreamFailure) :
    Passes p (.lost cause) p
  | sleeps (ms : Nat) : Passes .reconnecting (.slept ms) .reconnecting

/-- Moments that lead from one phase to another, each as its phase allows. -/
inductive Trail : Phase → List Moment → Phase → Prop where
  | nil (p : Phase) : Trail p [] p
  | cons {p q r : Phase} {m : Moment} {rest : List Moment} (step : Passes p m q)
    (later : Trail q rest r) : Trail p (m :: rest) r

namespace Passes

variable {p q : Phase} {m : Moment}

theorem phase_eq (step : Passes p m q) : m.phase?.getD p = q := by
  cases step <;> rfl

theorem not_from_closed (step : Passes .closed m q) : False := by
  cases step with
  | enters next =>
    cases next with
    | closes live => cases live
  | waits live => cases live
  | loses connected cause => rcases connected with never | never <;> cases never

/-- Nothing is published but in the phase of streaming. -/
theorem streaming_of_published (step : Passes p m q) (told : m.published?.isSome = true) :
    p = .streaming := by
  cases step with
  | applies payload published => rfl
  | _ => cases told

end Passes

namespace Trail

variable {p q r : Phase} {ms ns : List Moment}

theorem append (first : Trail p ms q) (second : Trail q ns r) : Trail p (ms ++ ns) r := by
  induction first with
  | nil p => exact second
  | cons step _ ih => exact .cons step (ih second)

theorem concat {m : Moment} (first : Trail p ms q) (step : Passes q m r) :
    Trail p (ms ++ [m]) r :=
  first.append (.cons step (.nil r))

theorem split (told : Trail p (ms ++ ns) r) : ∃ q, Trail p ms q ∧ Trail q ns r := by
  induction ms generalizing p with
  | nil => exact ⟨p, .nil p, told⟩
  | cons m ms ih =>
    cases told with
    | cons step later =>
      obtain ⟨q, before, after⟩ := ih later
      exact ⟨q, .cons step before, after⟩

/-- Moments that do not leave a phase may come one after another. -/
theorem of_forall (stays : ∀ m ∈ ms, Passes p m p) : Trail p ms p := by
  induction ms with
  | nil => exact .nil p
  | cons m ms ih =>
    obtain ⟨here, later⟩ := List.forall_mem_cons.mp stays
    exact .cons here (ih later)

/-- The phase that a trail leads to is the last one that begins on it. -/
theorem phase_eq (told : Trail p ms q) : (phases ms).getLastD p = q := by
  induction told with
  | nil p => rfl
  | @cons p q r m rest step _ ih =>
    rw [← ih, ← step.phase_eq]
    unfold phases
    cases began : m.phase? with
    | none => rw [List.filterMap_cons_none began, Option.getD_none]
    | some next => rw [List.filterMap_cons_some began, List.getLastD_cons, Option.getD_some]

/-- The phases on a trail come one after another as phases may. -/
theorem isChain (told : Trail p ms q) : List.IsChain Phase.LeadsTo (p :: phases ms) := by
  induction told with
  | nil p => exact List.isChain_singleton p
  | @cons p q r m rest step _ ih =>
    cases step with
    | enters next => exact List.isChain_cons_cons.mpr ⟨next, ih⟩
    | _ => exact ih

theorem eq_closed (told : Trail .closed ms q) : q = .closed := by
  cases told with
  | nil => rfl
  | cons step later => exact step.not_from_closed.elim

/-- A session that is not closed has not been closed before. -/
theorem closed_not_mem (told : Trail p ms q) (notClosed : q ≠ .closed) :
    Phase.closed ∉ phases ms := by
  induction told with
  | nil p => exact List.not_mem_nil
  | @cons p q r m rest step later ih =>
    cases step with
    | enters next =>
      intro member
      rcases List.mem_cons.mp member with rfl | there
      · exact notClosed later.eq_closed
      · exact ih notClosed there
    | _ => exact ih notClosed

end Trail

end Moment

namespace Connection

/-- The phase in which an attempt leaves a session. -/
def phase : Connection → Phase
  | .failed _ => .connecting
  | .opened _ => .streaming

theorem phase_cases (c : Connection) : c.phase = .connecting ∨ c.phase = .streaming := by
  cases c with
  | failed cause => exact Or.inl rfl
  | opened body => exact Or.inr rfl

theorem phase_of_done {c : Connection} (ended : Frame.done ∈ c.frames) : c.phase = .streaming := by
  cases c with
  | failed cause => cases ended
  | opened body => rfl

theorem phase_leadsTo_reconnecting (c : Connection) : c.phase.LeadsTo .reconnecting := by
  cases c with
  | failed cause => exact .fails
  | opened body => exact .breaks

end Connection

namespace Worker

open Moment

theorem handle_streaming (w : Worker) (payload : String) :
    ∀ m ∈ (w.handle payload).2, Passes .streaming m .streaming := by
  intro m member
  rcases w.handle_cases payload with ⟨valid, _, handled⟩ | ⟨_, report, handled⟩
  · rw [handled, apply_eq] at member
    rw [List.mem_singleton.mp member]
    exact .applies payload _
  · rw [handled] at member
    simp only [refuse, List.mem_cons, List.not_mem_nil, or_false] at member
    rcases member with rfl | rfl | rfl | rfl
    · exact .refuses payload report
    · exact .waits rfl
    · exact .reports report _
    · exact .waits rfl

theorem handleAll_streaming (w : Worker) (payloads : List String) :
    ∀ m ∈ (w.handleAll payloads).2, Passes .streaming m .streaming := by
  induction payloads generalizing w with
  | nil => exact List.forall_mem_nil _
  | cons payload rest ih =>
    rw [handleAll_cons]
    exact List.forall_mem_append.mpr ⟨w.handle_streaming payload, ih _⟩

theorem takeChunks_streaming (w : Worker) (d : Decoder) (ending : Ending)
    (chunks : List (List UInt8)) :
    ∀ m ∈ (w.takeChunks d ending chunks).2.1, Passes .streaming m .streaming := by
  intro m member
  cases waits : m.isWaiting with
  | true =>
    rw [eq_waiting waits]
    exact .waits rfl
  | false =>
    have awake : m ∈ busy (w.takeChunks d ending chunks).2.1 :=
      List.mem_filter.mpr ⟨member, by rw [waits]; rfl⟩
    rw [(w.takeChunks_eq d ending chunks).2.1] at awake
    exact w.handleAll_streaming _ m (List.mem_filter.mp awake).1

theorem connect_trail (w : Worker) (c : Connection) :
    Trail .connecting (w.connect c).2.1 c.phase := by
  cases c with
  | failed cause => exact .nil .connecting
  | opened body =>
    exact .cons (.enters .opens) (.of_forall (takeChunks_streaming _ .start body.ending body.chunks))

theorem requests_connect (w : Worker) (c : Connection) : requests (w.connect c).2.1 = 0 := by
  rw [← requests_busy, (w.connect_eq c).2.1]
  exact w.requests_attend _

theorem connect_failure_iff (w : Worker) (c : Connection) :
    (w.connect c).2.2 = none ↔ Frame.done ∈ c.frames := by
  rw [(w.connect_eq c).2.2]
  exact c.outcome_failure_iff _

/-- How a run goes on after an attempt. -/
inductive Sequel (w : Worker) (rest : List Connection) :
    Option StreamFailure → List Moment → Prop where
  | finished : Sequel w rest none [.entered .closed]
  | spent {cause : StreamFailure} {backoff : Backoff} (tried : w.backoff.next = (backoff, none)) :
    Sequel w rest (some cause) [.lost cause, .entered .reconnecting, .entered .closed]
  | again {cause : StreamFailure} {backoff : Backoff} {delay : Nat}
    (tried : w.backoff.next = (backoff, some delay)) :
    Sequel w rest (some cause)
      ([.lost cause, .entered .reconnecting, .waiting, .slept delay] ++
        run { w with backoff := backoff } rest)

theorem run_cons (w : Worker) (c : Connection) (rest : List Connection) :
    ∃ tail, w.run (c :: rest) = attempt ++ (w.connect c).2.1 ++ tail ∧
      Sequel (w.connect c).1 rest (w.connect c).2.2 tail := by
  rw [run]
  generalize w.connect c = connected
  obtain ⟨after, now, failure⟩ := connected
  cases failure with
  | none => exact ⟨_, rfl, .finished⟩
  | some cause =>
    rcases tried : after.backoff.next with ⟨backoff, _ | delay⟩
    · refine ⟨_, ?_, .spent tried⟩
      simp only [tried]
    · refine ⟨_, ?_, .again tried⟩
      simp only [tried]
      rfl

/-- The phase in which a session closes after its last attempt: it streams if that attempt brought
the word that the stream is over, and reconnects if not. -/
inductive Closing (c : Connection) : Phase → Prop where
  | finished (done : Frame.done ∈ c.frames) : Closing c .streaming
  | spent (lost : Frame.done ∉ c.frames) : Closing c .reconnecting

theorem Closing.closes {c : Connection} {p : Phase} (why : Closing c p) : p.LeadsTo .closed := by
  cases why with
  | finished done => exact .closes rfl
  | spent lost => exact .closes rfl

/-- The ends of a run that starts in a phase: it waits for the reply to a request beyond the
attempts, or it closes after one of them. -/
inductive Ends (p : Phase) : List Connection → List Moment → Prop where
  | pending {attempts : List Connection} {past : List Moment} (trail : Trail p past .connecting)
    (requested : requests past = attempts.length + 1) : Ends p attempts (past ++ [.waiting])
  | closed {made rest : List Connection} {c : Connection} {past : List Moment} {q : Phase}
    (trail : Trail p past q) (requested : requests past = made.length + 1) (why : Closing c q) :
    Ends p (made ++ c :: rest) (past ++ [.entered .closed])

/-- An attempt before a run does not change how the run ends. -/
theorem Ends.cons {p q : Phase} {c : Connection} {attempts : List Connection}
    {front ms : List Moment} (before : Trail p front q) (request : requests front = 1)
    (ends : Ends q attempts ms) : Ends p (c :: attempts) (front ++ ms) := by
  cases ends with
  | pending trail requested =>
    rw [← List.append_assoc]
    refine .pending (before.append trail) ?_
    rw [requests_append, request, requested, Nat.add_comm, List.length_cons]
  | @closed made rest last past r trail requested why =>
    have counted : requests (front ++ past) = (c :: made).length + 1 := by
      rw [requests_append, request, requested, Nat.add_comm, List.length_cons]
    have closes : Ends p ((c :: made) ++ last :: rest) ((front ++ past) ++ [.entered .closed]) :=
      .closed (before.append trail) counted why
    rw [List.append_assoc] at closes
    exact closes

/-- A run goes from phase to phase as phases may. -/
theorem Ends.trail {p : Phase} {attempts : List Connection} {ms : List Moment}
    (ends : Ends p attempts ms) : ∃ q, Trail p ms q := by
  cases ends with
  | pending trail requested => exact ⟨.connecting, trail.concat (.waits rfl)⟩
  | closed trail requested why => exact ⟨.closed, trail.concat (.enters why.closes)⟩

theorem attempt_trail {p : Phase} (ready : p.LeadsTo .connecting) :
    Trail p attempt .connecting :=
  .cons (.enters ready) (.cons (.waits rfl) (.cons .requests (.cons (.waits rfl) (.nil _))))

theorem run_ends (w : Worker) (attempts : List Connection) {p : Phase}
    (ready : p.LeadsTo .connecting) : Ends p attempts (w.run attempts) := by
  induction attempts generalizing w p with
  | nil =>
    have asked : Trail p [.entered .connecting, .waiting, .requested] .connecting :=
      .cons (.enters ready) (.cons (.waits rfl) (.cons .requests (.nil _)))
    have pending : Ends p [] (_ ++ [.waiting]) := .pending asked rfl
    exact pending
  | cons c rest ih =>
    obtain ⟨tail, told, sequel⟩ := w.run_cons c rest
    have reached : Trail p (attempt ++ (w.connect c).2.1) c.phase :=
      (attempt_trail ready).append (w.connect_trail c)
    have request : requests (attempt ++ (w.connect c).2.1) = 1 := by
      rw [requests_append, requests_connect]
      rfl
    have loses (cause : StreamFailure) :
        Trail c.phase [.lost cause, .entered .reconnecting] .reconnecting :=
      .cons (.loses c.phase_cases cause)
        (.cons (.enters c.phase_leadsTo_reconnecting) (.nil _))
    have ended := w.connect_failure_iff c
    rw [told]
    generalize (w.connect c).2.2 = failure at sequel ended
    cases sequel with
    | finished =>
      have done := ended.mp rfl
      rw [Connection.phase_of_done done] at reached
      have ends : Ends p ([] ++ c :: rest) (_ ++ [.entered .closed]) :=
        .closed reached request (.finished done)
      exact ends
    | @spent cause backoff tried =>
      have lost : Frame.done ∉ c.frames := fun done => by cases ended.mpr done
      have trail := reached.append (loses cause)
      have counted : requests
          (attempt ++ (w.connect c).2.1 ++ [.lost cause, .entered .reconnecting]) = 1 := by
        rw [requests_append, request]
        rfl
      have ends : Ends p ([] ++ c :: rest) (_ ++ [.entered .closed]) :=
        .closed trail counted (.spent lost)
      rw [List.append_assoc] at ends
      exact ends
    | @again cause backoff delay tried =>
      have slept : Trail .reconnecting [.waiting, .slept delay] .reconnecting :=
        .cons (.waits rfl) (.cons (.sleeps delay) (.nil _))
      have trail := reached.append ((loses cause).append slept)
      rw [← List.append_assoc]
      refine Ends.cons trail ?_ (ih _ .retries)
      rw [requests_append, request]
      rfl

end Worker

namespace Session

open Moment

theorem currentPhase_of_trail {ms : List Moment} {p : Phase} (told : Trail .idle ms p) :
    currentPhase (.entered .idle :: ms) = p := by
  rw [← told.phase_eq]
  exact List.getLastD_cons

theorem run_ends (s : Session) (receipts : List Bool) (attempts : List Connection) :
    ∃ told, s.run receipts attempts = .entered .idle :: told ∧
      Worker.Ends .idle attempts told :=
  ⟨_, rfl, (s.start receipts).run_ends attempts .begins⟩

/-- A run is over where it makes no request beyond the attempts. -/
theorem isOver_run_iff (s : Session) (receipts : List Bool) (attempts : List Connection) :
    isOver (s.run receipts attempts) = true ↔
      requests (s.run receipts attempts) ≤ attempts.length := by
  obtain ⟨told, begun, ends⟩ := s.run_ends receipts attempts
  rw [begun]
  cases ends with
  | @pending _ past trail requested =>
    have waits : Trail .idle (past ++ [.waiting]) .connecting := trail.concat (.waits rfl)
    have beyond : requests (.entered .idle :: (past ++ [.waiting])) = attempts.length + 1 := by
      rw [← requested]
      exact requests_append past [.waiting]
    rw [isOver, currentPhase_of_trail waits, beyond]
    simp [Phase.isClosed]
  | @closed made rest c past p trail requested why =>
    have closes := trail.concat (.enters why.closes)
    have within : requests (.entered .idle :: (past ++ [.entered .closed])) = made.length + 1 := by
      rw [← requested]
      exact requests_append past [.entered .closed]
    rw [isOver, currentPhase_of_trail closes, within]
    simp [Phase.isClosed]

end Session

end RemoteSurface
