import Mathlib.Data.List.Forall2
import RemoteSurface.Proofs.ReconnectLimit
/-!
Sessions and their reports. Each payload that a session takes has one fate: it is applied, or it is
reported, and the report says what the payload itself makes it say. The fates come in the order of
the payloads, so a payload is reported before a later one is applied. How the origin receives the
reports changes nothing in a session but the word that it did.
-/
namespace RemoteSurface

/-- What becomes of a payload. -/
inductive Fate where
  | applied (payload : String)
  | reported (report : Report)

namespace Fate

/-- The message that is applied, if one is. -/
def message? : Fate → Option ValidMessage
  | applied payload => ValidMessage.ofPayload? payload
  | reported _ => none

/-- The fate that a payload calls for. What is no message is reported under the surface that it
seems to be about, a message that is not well formed under the surface that it is about. -/
inductive Fits (sessionId payload : String) : Fate → Prop where
  | wellFormed {m : Message} (decoded : Message.decode payload = .ok m) (clean : m.violations = []) :
    Fits sessionId payload (.applied payload)
  | malformed {failure : DecodeFailure} (undecoded : Message.decode payload = .error failure) :
    Fits sessionId payload (.reported
      ⟨sessionId, Message.surfaceHint? payload, ["malformed message: " ++ failure.message]⟩)
  | invalid {m : Message} (decoded : Message.decode payload = .ok m) (wrong : m.violations ≠ []) :
    Fits sessionId payload
      (.reported ⟨sessionId, m.surfaceId?, m.violations.map Violation.message⟩)

theorem Fits.unique {sessionId payload : String} {one other : Fate}
    (first : Fits sessionId payload one) (second : Fits sessionId payload other) : one = other := by
  cases first with
  | wellFormed decoded clean =>
    cases second with
    | wellFormed decoded' clean' => rfl
    | malformed undecoded =>
      rw [decoded] at undecoded
      cases undecoded
    | invalid decoded' wrong =>
      obtain rfl := Except.ok.inj (decoded.symm.trans decoded')
      exact absurd clean wrong
  | malformed undecoded =>
    cases second with
    | wellFormed decoded clean =>
      rw [decoded] at undecoded
      cases undecoded
    | malformed undecoded' =>
      obtain rfl := Except.error.inj (undecoded.symm.trans undecoded')
      rfl
    | invalid decoded wrong =>
      rw [decoded] at undecoded
      cases undecoded
  | invalid decoded wrong =>
    cases second with
    | wellFormed decoded' clean =>
      obtain rfl := Except.ok.inj (decoded.symm.trans decoded')
      exact absurd clean wrong
    | malformed undecoded =>
      rw [decoded] at undecoded
      cases undecoded
    | invalid decoded' wrong' =>
      obtain rfl := Except.ok.inj (decoded.symm.trans decoded')
      rfl

theorem exists_fits (sessionId payload : String) : ∃ fate, Fits sessionId payload fate := by
  cases read : Message.decode payload with
  | error failure => exact ⟨_, .malformed read⟩
  | ok m =>
    by_cases clean : m.violations = []
    · exact ⟨_, .wellFormed read clean⟩
    · exact ⟨_, .invalid read clean⟩

theorem exists_unique_fits (sessionId payload : String) : ∃! fate, Fits sessionId payload fate := by
  obtain ⟨fate, fits⟩ := exists_fits sessionId payload
  exact ⟨fate, fits, fun other fitsToo => fitsToo.unique fits⟩

/-- A report is about its session, and never about a blank surface. -/
theorem Fits.report {sessionId payload : String} {report : Report}
    (fits : Fits sessionId payload (.reported report)) :
    report.sessionId = sessionId ∧
      ∀ id, report.surfaceId = some id → Text.isBlank id = false := by
  cases fits with
  | malformed undecoded =>
    refine ⟨rfl, ?_⟩
    intro id named
    have hinted : Message.surfaceHint? payload = some id := named
    unfold Message.surfaceHint? at hinted
    split at hinted
    · exact Message.filled_of_unlessBlank hinted
    · cases hinted
  | invalid decoded wrong => exact ⟨rfl, fun id named => Message.filled_of_unlessBlank named⟩

end Fate

namespace Moment

/-- The fate of a payload that is settled at a moment. A payload that is refused is settled when the
report about it has been sent. -/
def fate? : Moment → Option Fate
  | applied payload _ => some (.applied payload)
  | reported report _ => some (.reported report)
  | _ => none

def fates (ms : List Moment) : List Fate := ms.filterMap fate?

/-- Whether the payloads taken are settled one by one, each by the fate that it calls for. -/
def Settled (sessionId : String) (ms : List Moment) : Prop :=
  List.Forall₂ (Fate.Fits sessionId) (payloads ms) (fates ms)

theorem Settled.append {sessionId : String} {ms ns : List Moment}
    (first : Settled sessionId ms) (second : Settled sessionId ns) :
    Settled sessionId (ms ++ ns) := by
  rw [Settled, payloads, fates, List.filterMap_append, List.filterMap_append]
  exact List.rel_append first second

theorem settled_nil (sessionId : String) : Settled sessionId [] := .nil

theorem settled_cons_iff {m : Moment} (noPayload : m.payload? = none) (noFate : m.fate? = none)
    (sessionId : String) (ms : List Moment) :
    Settled sessionId (m :: ms) ↔ Settled sessionId ms := by
  rw [Settled, payloads_cons_of_none noPayload, fates, List.filterMap_cons_none noFate]
  rfl

theorem settled_busy_iff (sessionId : String) (ms : List Moment) :
    Settled sessionId (busy ms) ↔ Settled sessionId ms := by
  rw [Settled, payloads_busy, fates, filterMap_busy rfl]
  rfl

/-- What is taken and not applied does not count among the messages taken. -/
theorem Follows.taken_eq {s t : Snapshot} {j k : Nat} {ms : List Moment}
    (told : Follows s j ms t k) : taken ms = (fates ms).filterMap Fate.message? := by
  induction told with
  | nil s stamp => rfl
  | @cons _ _ _ _ _ _ m rest step _ ih =>
    cases step with
    | @applied payload m valid =>
      have counted : (Fate.applied payload).message? = some m := valid
      have settled (published : Option Snapshot) :
          fates (.applied payload published :: rest) = .applied payload :: fates rest := rfl
      rw [taken_applied valid, settled, List.filterMap_cons_some counted]
      exact congrArg (List.cons m) ih
    | @refused payload report invalid =>
      rw [taken_refused invalid]
      exact ih
    | quiet noPayload silent =>
      rw [taken_of_none noPayload]
      cases m with
      | applied payload published => cases noPayload
      | refused payload report => cases noPayload
      | _ => exact ih

/-- The moment without the word whether a report was received. -/
def unanswered : Moment → Moment
  | reported report _ => reported report false
  | m => m

theorem busy_map_unanswered (ms : List Moment) :
    busy (ms.map unanswered) = (busy ms).map unanswered := by
  have same : (fun m : Moment => !m.isWaiting) ∘ unanswered = fun m => !m.isWaiting := by
    funext m
    cases m <;> rfl
  rw [busy, List.filter_map, same]
  rfl

/-- Runs that are alike but for waits and for whether reports were received tell the same of
anything that does not depend on these. -/
theorem filterMap_congr {α : Type} {tell : Moment → Option α} (silent : tell waiting = none)
    (deaf : ∀ m, tell m.unanswered = tell m) {ms ns : List Moment}
    (alike : (busy ms).map unanswered = (busy ns).map unanswered) :
    ms.filterMap tell = ns.filterMap tell := by
  have told : ∀ ms : List Moment, ms.filterMap tell = ((busy ms).map unanswered).filterMap tell := by
    intro ms
    have same : tell ∘ unanswered = tell := funext deaf
    rw [List.filterMap_map, same, filterMap_busy silent]
  rw [told ms, told ns, alike]

theorem requests_congr {ms ns : List Moment}
    (alike : (busy ms).map unanswered = (busy ns).map unanswered) : requests ms = requests ns := by
  have told : ∀ ms : List Moment, requests ms = requests ((busy ms).map unanswered) := by
    intro ms
    have same : isRequest ∘ unanswered = isRequest := by
      funext m
      cases m <;> rfl
    have kept : requests ((busy ms).map unanswered) = requests (busy ms) := by
      rw [requests, List.countP_map, same]
      rfl
    rw [kept, requests_busy]
  rw [told ms, told ns, alike]

end Moment

namespace Worker

open Moment (Settled unanswered)

theorem handle_sessionId (w : Worker) (payload : String) :
    (w.handle payload).1.sessionId = w.sessionId := by
  rcases w.handle_cases payload with ⟨m, _, handled⟩ | ⟨_, report, handled⟩
  · rw [handled, apply_eq]
  · rw [handled]
    rfl

theorem handleAll_sessionId (w : Worker) (payloads : List String) :
    (w.handleAll payloads).1.sessionId = w.sessionId := by
  induction payloads generalizing w with
  | nil => rfl
  | cons payload rest ih => rw [handleAll_cons, ih, handle_sessionId]

theorem attend_sessionId (w : Worker) (o : Outcome) : (w.attend o).1.sessionId = w.sessionId := by
  unfold attend
  split
  · rfl
  · exact handleAll_sessionId _ _

/-- Handling a payload settles it. -/
theorem handle_settled (w : Worker) (payload : String) :
    Settled w.sessionId (w.handle payload).2 := by
  unfold handle
  cases read : Message.decode payload with
  | error failure => exact .cons (.malformed read) .nil
  | ok m =>
    dsimp only
    by_cases clean : m.violations = []
    · rw [ValidMessage.ofMessage, if_pos clean]
      dsimp only
      rw [apply_eq]
      exact .cons (.wellFormed read clean) .nil
    · rw [ValidMessage.ofMessage, if_neg clean]
      exact .cons (.invalid read clean) .nil

theorem handleAll_settled (w : Worker) (payloads : List String) :
    Settled w.sessionId (w.handleAll payloads).2 := by
  induction payloads generalizing w with
  | nil => exact Moment.settled_nil w.sessionId
  | cons payload rest ih =>
    have later := ih (w.handle payload).1
    rw [handle_sessionId] at later
    rw [handleAll_cons]
    exact (w.handle_settled payload).append later

theorem attend_settled (w : Worker) (o : Outcome) : Settled w.sessionId (w.attend o).2 := by
  unfold attend
  split
  next => exact Moment.settled_nil w.sessionId
  next payloads _ =>
    rw [Moment.settled_cons_iff rfl rfl, Moment.settled_busy_iff]
    exact handleAll_settled { w with backoff := w.backoff.reset } payloads

theorem course_settled (w : Worker) (os : List Outcome) : Settled w.sessionId (w.course os) := by
  induction os generalizing w with
  | nil => exact .nil
  | cons o rest ih =>
    obtain ⟨tail, told, aftermath⟩ := w.course_cons o rest
    have started : Settled w.sessionId [.entered .connecting, .requested] := .nil
    have ended : Settled w.sessionId tail := by
      generalize o.failure = failure at aftermath
      cases aftermath with
      | ended => exact .nil
      | spent tried => exact .nil
      | @again cause backoff delay tried =>
        have same : { (w.attend o).1 with backoff := backoff }.sessionId = w.sessionId :=
          w.attend_sessionId o
        rw [← same]
        exact ih { (w.attend o).1 with backoff := backoff }
    rw [told]
    exact (started.append (w.attend_settled o)).append ended

/-- The worker whose reports the origin will receive as given. -/
def answered (w : Worker) (receipts : List Bool) : Worker := { w with receipts := receipts }

/-- Only the receipts left over differ: a report uses one up, whatever it says. -/
theorem handle_answered (w : Worker) (receipts : List Bool) (payload : String) :
    ∃ left, ((w.answered receipts).handle payload).1 = (w.handle payload).1.answered left ∧
      ((w.answered receipts).handle payload).2.map unanswered =
        (w.handle payload).2.map unanswered := by
  unfold handle
  cases Message.decode payload with
  | error failure => exact ⟨receipts.tail, rfl, rfl⟩
  | ok m =>
    dsimp only
    cases ValidMessage.ofMessage m with
    | error found => exact ⟨receipts.tail, rfl, rfl⟩
    | ok valid =>
      dsimp only
      rw [apply_eq, apply_eq]
      exact ⟨receipts, rfl, rfl⟩

theorem handleAll_answered (w : Worker) (receipts : List Bool) (payloads : List String) :
    ∃ left, ((w.answered receipts).handleAll payloads).1 = (w.handleAll payloads).1.answered left ∧
      ((w.answered receipts).handleAll payloads).2.map unanswered =
        (w.handleAll payloads).2.map unanswered := by
  induction payloads generalizing w receipts with
  | nil => exact ⟨receipts, rfl, rfl⟩
  | cons payload rest ih =>
    obtain ⟨between, worker, moments⟩ := w.handle_answered receipts payload
    obtain ⟨left, last, later⟩ := ih (w.handle payload).1 between
    refine ⟨left, ?_, ?_⟩
    · rw [handleAll_cons, handleAll_cons, worker]
      exact last
    · rw [handleAll_cons, handleAll_cons, worker, List.map_append, List.map_append, moments, later]

theorem attend_answered (w : Worker) (receipts : List Bool) (o : Outcome) :
    ∃ left, ((w.answered receipts).attend o).1 = (w.attend o).1.answered left ∧
      ((w.answered receipts).attend o).2.map unanswered = (w.attend o).2.map unanswered := by
  unfold attend
  cases o.delivered with
  | none => exact ⟨receipts, rfl, rfl⟩
  | some payloads =>
    obtain ⟨left, worker, moments⟩ :=
      handleAll_answered { w with backoff := w.backoff.reset } receipts payloads
    refine ⟨left, worker, ?_⟩
    have busied := congrArg Moment.busy moments
    rw [Moment.busy_map_unanswered, Moment.busy_map_unanswered] at busied
    exact congrArg (List.cons (Moment.entered .streaming)) busied

/-- The course of a worker does not depend on how the origin receives reports. -/
theorem course_answered (w : Worker) (receipts : List Bool) (os : List Outcome) :
    ((w.answered receipts).course os).map unanswered = (w.course os).map unanswered := by
  induction os generalizing w receipts with
  | nil => rfl
  | cons o rest ih =>
    obtain ⟨left, worker, moments⟩ := w.attend_answered receipts o
    rw [course, course]
    generalize (w.answered receipts).attend o = attended at worker moments ⊢
    obtain ⟨after, now⟩ := attended
    obtain rfl : after = (w.attend o).1.answered left := worker
    have backoff : ((w.attend o).1.answered left).backoff = (w.attend o).1.backoff := rfl
    dsimp only at moments ⊢
    rw [backoff]
    simp only [List.map_append, moments]
    cases o.failure with
    | none => rfl
    | some cause =>
      dsimp only
      cases (w.attend o).1.backoff.next with
      | mk next delay =>
        cases delay with
        | none => rfl
        | some delay =>
          have later := ih { (w.attend o).1 with backoff := next } left
          simp only [List.map_cons]
          exact congrArg (fun tail => _ ++ (_ :: _ :: _ :: tail)) later

end Worker

namespace Session

open Moment

theorem run_settled (s : Session) (receipts : List Bool) (attempts : List Connection) :
    Settled s.id (s.run receipts attempts) := by
  rw [← settled_busy_iff, busy_run, settled_cons_iff rfl rfl]
  exact (s.start receipts).course_settled _

/-- Readers see the replay of what has been applied, and of nothing else. -/
theorem snapshot_eq_replay_fates (s : Session) (receipts : List Bool) (attempts : List Connection)
    {past : List Moment} (started : past <+: s.run receipts attempts) :
    snapshot past =
      Snapshot.empty.replay (Snapshot.stampedFrom 0 ((fates past).filterMap Fate.message?)) := by
  obtain ⟨last, final, told⟩ := s.run_follows receipts attempts
  obtain ⟨seen, stamp, toldSoFar⟩ := told.of_prefix started
  rw [← toldSoFar.taken_eq]
  exact toldSoFar.snapshot_eq (Snapshot.empty_before 0)

theorem run_answered (s : Session) (receipts others : List Bool) (attempts : List Connection) :
    (busy (s.run others attempts)).map unanswered =
      (busy (s.run receipts attempts)).map unanswered := by
  have same := (s.start receipts).course_answered others
    (attempts.map (Connection.outcome s.settings.idleTimeoutSeconds))
  rw [busy_run, busy_run]
  exact congrArg (List.cons (Moment.entered .idle)) same

/-- Every payload that the requested attempts of a session deliver has one fate, and the session
settles them one by one: well-formed messages are applied, and all else is reported, before any
later payload is settled. A first attempt is requested, and another one after an attempt that is
lost, unless the limit is spent. Readers see at every moment the replay of just the messages applied by
then. A report carries the id of the session, what is wrong with the payload, and the surface it is
about, if that is known and not blank. Sessions that differ only in how the origin receives their
reports go the same course, publish the same snapshots, and pass through the same phases with as
many requests. -/
theorem payloads_are_applied_or_reported (s : Session) (receipts : List Bool)
    (attempts : List Connection) :
    (∀ payload, ∃! fate, Fate.Fits s.id payload fate) ∧
    List.Forall₂ (Fate.Fits s.id)
      ((attempts.take (requests (s.run receipts attempts))).flatMap Connection.payloads)
      (fates (s.run receipts attempts)) ∧
    0 < requests (s.run receipts attempts) ∧
    (∀ (i : Nat) c, attempts[i]? = some c → i < requests (s.run receipts attempts) →
      (i + 1 < requests (s.run receipts attempts) ↔
        Frame.done ∉ c.frames ∧ s.Allows (attempts.take (i + 1)))) ∧
    (∀ past, past <+: s.run receipts attempts →
      snapshot past =
        Snapshot.empty.replay (Snapshot.stampedFrom 0 ((fates past).filterMap Fate.message?))) ∧
    (∀ payload report, Fate.Fits s.id payload (.reported report) →
      report.toJson.get? "sessionId" = some (.text s.id) ∧
      ∃ details, report.toJson.get? "error" = some details ∧
        details.get? "type" = some (.text "invalid_message") ∧
        details.get? "violations" = some (.array (report.violations.map .text)) ∧
        (report.surfaceId = none ∧ details.get? "surfaceId" = some .null ∨
          ∃ id, report.surfaceId = some id ∧ Text.isBlank id = false ∧
            details.get? "surfaceId" = some (.text id))) ∧
    ∀ others : List Bool,
      (busy (s.run others attempts)).map unanswered =
        (busy (s.run receipts attempts)).map unanswered ∧
      (s.run others attempts).filterMap published? =
        (s.run receipts attempts).filterMap published? ∧
      phases (s.run others attempts) = phases (s.run receipts attempts) ∧
      requests (s.run others attempts) = requests (s.run receipts attempts) := by
  refine ⟨Fate.exists_unique_fits s.id, ?_, s.requests_run_pos receipts attempts,
    fun i c => s.next_request_iff receipts, ?_, ?_, ?_⟩
  · rw [← payloads_run]
    exact s.run_settled receipts attempts
  · intro past started
    exact s.snapshot_eq_replay_fates receipts attempts started
  · intro payload report fits
    obtain ⟨own, filled⟩ := fits.report
    obtain ⟨sessionId, surfaceId, violations⟩ := report
    obtain rfl : sessionId = s.id := own
    refine ⟨rfl, _, rfl, rfl, rfl, ?_⟩
    cases surfaceId with
    | none => exact Or.inl ⟨rfl, rfl⟩
    | some id => exact Or.inr ⟨id, rfl, filled id rfl, rfl⟩
  · intro others
    have alike := s.run_answered receipts others attempts
    refine ⟨alike, ?_, ?_, requests_congr alike⟩
    · apply filterMap_congr rfl _ alike
      intro m
      cases m <;> rfl
    · apply filterMap_congr rfl _ alike
      intro m
      cases m <;> rfl

end Session

end RemoteSurface
