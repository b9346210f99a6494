import RemoteSurface.Proofs.ConnectionOutcome
import RemoteSurface.Proofs.SnapshotSharing
/-!
The course of a session. What happens in a run apart from its waits is told by the outcomes of its
attempts: each payload that they deliver is handled in its turn, and after each failure the backoff
says whether there is another attempt.
-/
namespace RemoteSurface

namespace Moment

/-- Whether the session waits at a moment. -/
def isWaiting : Moment → Bool
  | waiting => true
  | _ => false

/-- The moments at which the session does not wait. -/
def busy (ms : List Moment) : List Moment := ms.filter fun m => !m.isWaiting

theorem busy_append (ms ns : List Moment) : busy (ms ++ ns) = busy ms ++ busy ns :=
  List.filter_append ms ns

theorem eq_waiting {m : Moment} (waits : m.isWaiting = true) : m = waiting := by
  cases m with
  | waiting => rfl
  | _ => cases waits

theorem busy_waiting (ms : List Moment) : busy (waiting :: ms) = busy ms := rfl

theorem busy_cons {m : Moment} (awake : m.isWaiting = false) (ms : List Moment) :
    busy (m :: ms) = m :: busy ms := by
  rw [busy, List.filter_cons, awake]
  rfl

/-- The payloads that are taken, in order. -/
def payloads (ms : List Moment) : List String := ms.filterMap payload?

/-- How many requests for the stream go out. -/
def requests (ms : List Moment) : Nat := ms.countP isRequest

theorem payloads_append (ms ns : List Moment) : payloads (ms ++ ns) = payloads ms ++ payloads ns :=
  List.filterMap_append

theorem requests_append (ms ns : List Moment) : requests (ms ++ ns) = requests ms + requests ns :=
  List.countP_append

theorem filterMap_busy {α : Type} {tell : Moment → Option α} (silent : tell waiting = none)
    (ms : List Moment) : (busy ms).filterMap tell = ms.filterMap tell := by
  induction ms with
  | nil => rfl
  | cons m ms ih =>
    cases m with
    | waiting => rw [busy_waiting, ih, List.filterMap_cons_none silent]
    | _ =>
      rw [List.filterMap_cons, ← ih]
      exact List.filterMap_cons

theorem payloads_busy (ms : List Moment) : payloads (busy ms) = payloads ms :=
  filterMap_busy rfl ms

theorem requests_busy (ms : List Moment) : requests (busy ms) = requests ms := by
  rw [requests, busy, List.countP_filter]
  apply List.countP_congr
  intro m _
  cases m with
  | waiting => simp [isRequest]
  | _ => simp [isWaiting]

end Moment

/-- The message of a payload, if it decodes to one that is well-formed. -/
def ValidMessage.ofPayload? (payload : String) : Option ValidMessage :=
  (Message.decode payload).toOption.bind fun m => (ofMessage m).toOption

namespace Worker

/-- Applying a message moves on to the snapshot that it publishes, if it publishes one. -/
theorem apply_eq (w : Worker) (payload : String) (m : ValidMessage) :
    w.apply payload m =
      ({ w with
          snapshot := (w.snapshot.change? w.stamp m).getD w.snapshot
          stamp := w.stamp + 1 },
        [.applied payload (w.snapshot.change? w.stamp m)]) := by
  unfold apply Snapshot.change?
  dsimp only
  split <;> rfl

/-- A payload is applied if it is a well-formed message, and refused if not. -/
theorem handle_cases (w : Worker) (payload : String) :
    (∃ m, ValidMessage.ofPayload? payload = some m ∧ w.handle payload = w.apply payload m) ∨
      ValidMessage.ofPayload? payload = none ∧
        ∃ report, w.handle payload = w.refuse payload report := by
  unfold handle ValidMessage.ofPayload?
  cases Message.decode payload with
  | error failure => exact Or.inr ⟨rfl, _, rfl⟩
  | ok m =>
    dsimp only [Except.toOption, Option.bind_some]
    cases ValidMessage.ofMessage m with
    | error violations => exact Or.inr ⟨rfl, _, rfl⟩
    | ok valid => exact Or.inl ⟨valid, rfl, rfl⟩

/-- Takes payloads one after another. -/
def handleAll (w : Worker) : List String → Worker × List Moment
  | [] => (w, [])
  | payload :: rest =>
    let (w, now) := w.handle payload
    let (w, later) := handleAll w rest
    (w, now ++ later)

theorem handleAll_cons (w : Worker) (payload : String) (rest : List String) :
    w.handleAll (payload :: rest) =
      (((w.handle payload).1.handleAll rest).1,
        (w.handle payload).2 ++ ((w.handle payload).1.handleAll rest).2) := rfl

theorem handleAll_append (w : Worker) (ps qs : List String) :
    w.handleAll (ps ++ qs) =
      (((w.handleAll ps).1.handleAll qs).1,
        (w.handleAll ps).2 ++ ((w.handleAll ps).1.handleAll qs).2) := by
  induction ps generalizing w with
  | nil => rfl
  | cons p ps ih => rw [List.cons_append, handleAll_cons, ih, handleAll_cons, List.append_assoc]

theorem handle_idle (w : Worker) (payload : String) :
    (w.handle payload).1.idleTimeoutSeconds = w.idleTimeoutSeconds := by
  rcases w.handle_cases payload with ⟨m, _, handled⟩ | ⟨_, report, handled⟩
  · rw [handled, apply_eq]
  · rw [handled]
    rfl

theorem handleAll_idle (w : Worker) (payloads : List String) :
    (w.handleAll payloads).1.idleTimeoutSeconds = w.idleTimeoutSeconds := by
  induction payloads generalizing w with
  | nil => rfl
  | cons payload rest ih => rw [handleAll_cons, ih, handle_idle]

theorem payloads_handle (w : Worker) (payload : String) :
    Moment.payloads (w.handle payload).2 = [payload] := by
  rcases w.handle_cases payload with ⟨m, _, handled⟩ | ⟨_, report, handled⟩
  · rw [handled, apply_eq]
    rfl
  · rw [handled]
    rfl

theorem requests_handle (w : Worker) (payload : String) :
    Moment.requests (w.handle payload).2 = 0 := by
  rcases w.handle_cases payload with ⟨m, _, handled⟩ | ⟨_, report, handled⟩
  · rw [handled, apply_eq]
    rfl
  · rw [handled]
    rfl

theorem payloads_handleAll (w : Worker) (payloads : List String) :
    Moment.payloads (w.handleAll payloads).2 = payloads := by
  induction payloads generalizing w with
  | nil => rfl
  | cons payload rest ih =>
    rw [handleAll_cons, Moment.payloads_append, payloads_handle, ih]
    rfl

theorem requests_handleAll (w : Worker) (payloads : List String) :
    Moment.requests (w.handleAll payloads).2 = 0 := by
  induction payloads generalizing w with
  | nil => rfl
  | cons payload rest ih => rw [handleAll_cons, Moment.requests_append, requests_handle, ih]

/-- Taking frames is taking the payloads before the stream is over. -/
theorem takeFrames_eq (w : Worker) (fs : List Frame) :
    w.takeFrames fs =
      ((w.handleAll (Frame.untilDone fs)).1, (w.handleAll (Frame.untilDone fs)).2,
        Frame.isOver fs) := by
  induction fs generalizing w with
  | nil => rfl
  | cons f fs ih =>
    cases f with
    | done => rfl
    | data payload =>
      simp only [takeFrames, ih]
      rfl

/-- The failure that some frames leave behind when a body ends as given. -/
def failureAfter (w : Worker) (ending : Ending) (fs : List Frame) : Option StreamFailure :=
  if Frame.isOver fs then none else some (ending.failure w.idleTimeoutSeconds)

/-- Taking the end of a body is taking the frames that it leaves. -/
theorem takeEnding_eq (w : Worker) (d : Decoder) (ending : Ending) :
    w.takeEnding d ending =
      ((w.handleAll (Frame.untilDone (d.lastFrames ending))).1,
        .waiting :: (w.handleAll (Frame.untilDone (d.lastFrames ending))).2,
        w.failureAfter ending (d.lastFrames ending)) := by
  cases ending with
  | finished =>
    simp only [takeEnding, takeFrames_eq]
    rfl
  | broken => rfl
  | silent => rfl

theorem failureAfter_handleAll (w : Worker) (payloads : List String) (ending : Ending)
    (fs : List Frame) :
    (w.handleAll payloads).1.failureAfter ending fs = w.failureAfter ending fs := by
  rw [failureAfter, failureAfter, handleAll_idle]

/-- Taking chunks is taking the frames of all of their bytes, apart from the waits. -/
theorem takeChunks_eq (w : Worker) (d : Decoder) (ending : Ending) (chunks : List (List UInt8)) :
    let fs := d.framesOf ending chunks.flatten
    (w.takeChunks d ending chunks).1 = (w.handleAll (Frame.untilDone fs)).1 ∧
      Moment.busy (w.takeChunks d ending chunks).2.1 =
        Moment.busy (w.handleAll (Frame.untilDone fs)).2 ∧
      (w.takeChunks d ending chunks).2.2 = w.failureAfter ending fs := by
  induction chunks generalizing w d with
  | nil =>
    rw [takeChunks, takeEnding_eq]
    exact ⟨rfl, rfl, rfl⟩
  | cons chunk rest ih =>
    have split : d.framesOf ending (chunk :: rest).flatten =
        (d.push chunk).2 ++ (d.push chunk).1.framesOf ending rest.flatten := by
      rw [List.flatten_cons, Decoder.framesOf_append]
    simp only [split, takeChunks, takeFrames_eq, failureAfter, Frame.isOver_append,
      Frame.untilDone_append]
    cases ended : Frame.isOver (d.push chunk).2 with
    | true =>
      -- The frames of later chunks come after the word that ends the stream.
      simp only [if_true, Bool.true_or, List.append_nil]
      exact ⟨trivial, Moment.busy_waiting _, trivial⟩
    | false =>
      obtain ⟨worker, moments, failure⟩ :=
        ih (w.handleAll (Frame.untilDone (d.push chunk).2)).1 (d.push chunk).1
      rw [failureAfter_handleAll] at failure
      simp only [Bool.false_eq_true, if_false, Bool.false_or, handleAll_append]
      refine ⟨worker, ?_, failure⟩
      rw [List.cons_append, Moment.busy_waiting, Moment.busy_append, moments, Moment.busy_append]

/-- An attempt of a worker as far as its outcome tells it: the worker afterwards, and the moments
apart from the waits. -/
def attend (w : Worker) (o : Outcome) : Worker × List Moment :=
  match o.delivered with
  | none => (w, [])
  | some payloads =>
    let (w, now) := handleAll { w with backoff := w.backoff.reset } payloads
    (w, .entered .streaming :: Moment.busy now)

/-- An attempt is told by its outcome. -/
theorem connect_eq (w : Worker) (c : Connection) :
    let o := c.outcome w.idleTimeoutSeconds
    (w.connect c).1 = (w.attend o).1 ∧
      Moment.busy (w.connect c).2.1 = (w.attend o).2 ∧ (w.connect c).2.2 = o.failure := by
  cases c with
  | failed cause => exact ⟨rfl, rfl, rfl⟩
  | opened body =>
    obtain ⟨worker, moments, failure⟩ :=
      takeChunks_eq { w with backoff := w.backoff.reset } .start body.ending body.chunks
    exact ⟨worker, congrArg (List.cons (Moment.entered .streaming)) moments, failure⟩

/-- The moments of a run apart from the waits, as the outcomes of its attempts tell them. -/
def course (w : Worker) : List Outcome → List Moment
  | [] => [.entered .connecting, .requested]
  | o :: rest =>
    let (after, now) := w.attend o
    [.entered .connecting, .requested] ++ now ++
      match o.failure with
      | none => [.entered .closed]
      | some cause =>
        .lost cause :: .entered .reconnecting ::
          match after.backoff.next with
          | (_, none) => [.entered .closed]
          | (backoff, some delay) => .slept delay :: course { after with backoff := backoff } rest

theorem attend_idle (w : Worker) (o : Outcome) :
    (w.attend o).1.idleTimeoutSeconds = w.idleTimeoutSeconds := by
  unfold attend
  split
  · rfl
  · exact handleAll_idle _ _

/-- A run goes the course that the outcomes of its attempts tell. -/
theorem busy_run (w : Worker) (attempts : List Connection) :
    Moment.busy (w.run attempts) =
      w.course (attempts.map (Connection.outcome w.idleTimeoutSeconds)) := by
  induction attempts generalizing w with
  | nil => rfl
  | cons c rest ih =>
    obtain ⟨worker, moments, failure⟩ := w.connect_eq c
    rw [List.map_cons, course, run]
    generalize w.connect c = connected at worker moments failure ⊢
    obtain ⟨after, now, lost⟩ := connected
    have attended : w.attend (c.outcome w.idleTimeoutSeconds) = (after, Moment.busy now) :=
      Prod.ext worker.symm moments.symm
    have idle : after.idleTimeoutSeconds = w.idleTimeoutSeconds :=
      (congrArg idleTimeoutSeconds worker).trans (w.attend_idle _)
    rw [attended, ← failure]
    cases lost with
    | none =>
      simp only [Moment.busy_append]
      rfl
    | some cause =>
      dsimp only
      generalize after.backoff.next = tried
      obtain ⟨backoff, _ | delay⟩ := tried
      · simp only [Moment.busy_append]
        rfl
      · have later := ih { after with backoff := backoff }
        simp only [Moment.busy_append]
        rw [← idle, ← later]
        rfl

theorem payloads_attend (w : Worker) (o : Outcome) :
    Moment.payloads (w.attend o).2 = o.delivered.getD [] := by
  unfold attend
  split
  next failed => rw [failed]; rfl
  next payloads delivered =>
    rw [delivered]
    exact (Moment.payloads_busy _).trans (payloads_handleAll _ payloads)

theorem requests_attend (w : Worker) (o : Outcome) : Moment.requests (w.attend o).2 = 0 := by
  unfold attend
  split
  next failed => rfl
  next payloads delivered => exact (Moment.requests_busy _).trans (requests_handleAll _ payloads)

/-- How a course goes on after an attempt: the stream is over, the limit of attempts is spent, or
the session sleeps and attempts again. -/
inductive Aftermath (w : Worker) (rest : List Outcome) :
    Option StreamFailure → List Moment → Prop where
  | ended : Aftermath w rest none [.entered .closed]
  | spent {cause : StreamFailure} {backoff : Backoff} (tried : w.backoff.next = (backoff, none)) :
    Aftermath w rest (some cause) [.lost cause, .entered .reconnecting, .entered .closed]
  | again {cause : StreamFailure} {backoff : Backoff} {delay : Nat}
    (tried : w.backoff.next = (backoff, some delay)) :
    Aftermath w rest (some cause)
      (.lost cause :: .entered .reconnecting :: .slept delay ::
        course { w with backoff := backoff } rest)

theorem course_cons (w : Worker) (o : Outcome) (rest : List Outcome) :
    ∃ tail, w.course (o :: rest) =
        [.entered .connecting, .requested] ++ (w.attend o).2 ++ tail ∧
      Aftermath (w.attend o).1 rest o.failure tail := by
  rw [course]
  cases failure : o.failure with
  | none => exact ⟨_, rfl, .ended⟩
  | some cause =>
    rcases tried : (w.attend o).1.backoff.next with ⟨backoff, _ | delay⟩
    · refine ⟨_, ?_, .spent tried⟩
      simp only [tried]
    · refine ⟨_, ?_, .again tried⟩
      simp only [tried]

/-- A course takes the payloads of the attempts it requests, in their order. -/
theorem payloads_course (w : Worker) (os : List Outcome) :
    Moment.payloads (w.course os) =
      (os.take (Moment.requests (w.course os))).flatMap fun o => o.delivered.getD [] := by
  induction os generalizing w with
  | nil => rfl
  | cons o rest ih =>
    obtain ⟨tail, told, aftermath⟩ := w.course_cons o rest
    have started : Moment.payloads [.entered .connecting, .requested] = [] := rfl
    have request : Moment.requests [.entered .connecting, .requested] = 1 := rfl
    rw [told]
    simp only [Moment.payloads_append, Moment.requests_append, payloads_attend, requests_attend,
      started, request, List.nil_append, Nat.add_comm 1, List.take_succ_cons, List.flatMap_cons,
      List.append_cancel_left_eq]
    generalize o.failure = failure at aftermath
    cases aftermath with
    | ended => rfl
    | spent tried => rfl
    | again tried => exact ih _

/-- No attempt is requested after one at whose end the stream is over. -/
theorem requests_course_le (w : Worker) {os : List Outcome} {i : Nat} {o : Outcome}
    (reached : os[i]? = some o) (ended : o.failure = none) :
    Moment.requests (w.course os) ≤ i + 1 := by
  induction os generalizing w i with
  | nil => cases reached
  | cons first rest ih =>
    obtain ⟨tail, told, aftermath⟩ := w.course_cons first rest
    have request : Moment.requests [.entered .connecting, .requested] = 1 := rfl
    rw [told, Moment.requests_append, Moment.requests_append, requests_attend, request,
      Nat.add_zero, Nat.add_comm]
    apply Nat.add_le_add_right
    cases i with
    | zero =>
      have same : first = o := Option.some.inj reached
      rw [same, ended] at aftermath
      cases aftermath
      exact Nat.le_refl 0
    | succ i =>
      generalize first.failure = failure at aftermath
      cases aftermath with
      | ended => exact Nat.zero_le (i + 1)
      | spent tried => exact Nat.zero_le (i + 1)
      | again tried => exact ih _ reached

end Worker

end RemoteSurface
