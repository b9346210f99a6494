import Mathlib.Data.List.DropRight
import RemoteSurface.Proofs.SessionPhases
/-!
The limit of reconnects. A session with a limit closes, if the stream is not over before, as soon as
that many reconnects in a row have failed to open, counted from the last attempt that opened or from
the first one of all; a session without a limit goes on. The counter of the backoff is one ahead of
that number, because it counts the failure before each reconnect too.
-/
namespace RemoteSurface

namespace Connection

def isOpen : Connection → Bool
  | .failed _ => false
  | .opened _ => true

/-- How many reconnects have failed to open, of the attempts made, since the last one that opened.
The first attempt of all is no reconnect. -/
def failedReconnects (made : List Connection) : Nat :=
  (made.tail.rtakeWhile fun c => !c.isOpen).length

theorem isOpen_of_done {c : Connection} (ended : Frame.done ∈ c.frames) : c.isOpen = true := by
  cases c with
  | failed cause => cases ended
  | opened body => rfl

theorem failedReconnects_cons_concat (first : Connection) (made : List Connection)
    (c : Connection) :
    failedReconnects (first :: made ++ [c]) =
      if c.isOpen then 0 else failedReconnects (first :: made) + 1 := by
  rw [failedReconnects, List.cons_append, List.tail_cons, List.rtakeWhile_concat]
  cases c.isOpen with
  | true => rfl
  | false => exact List.length_append

theorem failedReconnects_of_open (made : List Connection) {c : Connection}
    (opened : c.isOpen = true) : failedReconnects (made ++ [c]) = 0 := by
  cases made with
  | nil => rfl
  | cons first made => rw [failedReconnects_cons_concat, if_pos opened]

theorem failedReconnects_concat_le (made : List Connection) (c : Connection) :
    failedReconnects (made ++ [c]) ≤ failedReconnects made + 1 := by
  cases made with
  | nil => exact Nat.zero_le _
  | cons first made =>
    rw [failedReconnects_cons_concat]
    split
    · exact Nat.zero_le _
    · exact Nat.le_refl _

theorem failedReconnects_of_closed {made : List Connection}
    (closed : ∀ c ∈ made, c.isOpen = false) : failedReconnects made = made.length - 1 := by
  have all : (made.tail.rtakeWhile fun c => !c.isOpen) = made.tail := by
    rw [List.rtakeWhile_eq_self_iff]
    intro c member
    rw [closed c (List.mem_of_mem_tail member)]
    rfl
  rw [failedReconnects, all, List.length_tail]

theorem failedReconnects_append_open (before : List Connection) {c : Connection}
    (opened : c.isOpen = true) {after : List Connection}
    (closed : ∀ c ∈ after, c.isOpen = false) :
    failedReconnects (before ++ c :: after) = after.length := by
  induction after using List.reverseRecOn with
  | nil => exact failedReconnects_of_open before opened
  | append_singleton after last ih =>
    have lastClosed : last.isOpen = false := closed last (List.mem_append_right _ (.head _))
    have counted := ih fun c member => closed c (List.mem_append_left _ member)
    obtain ⟨first, made, shape⟩ : ∃ first made, before ++ c :: after = first :: made := by
      cases before with
      | nil => exact ⟨c, after, rfl⟩
      | cons first before => exact ⟨first, before ++ c :: after, rfl⟩
    rw [← List.cons_append, ← List.append_assoc, shape, failedReconnects_cons_concat, lastClosed,
      ← shape, counted, List.length_append]
    rfl

end Connection

namespace Backoff

/-- The backoff after an attempt whose failure it counts; an attempt that opened forgets those
before it. -/
def count (b : Backoff) (c : Connection) : Backoff := (if c.isOpen then b.reset else b).next.1

theorem limit_count (b : Backoff) (c : Connection) : (b.count c).limit = b.limit := by
  unfold count
  split <;> rfl

theorem attempts_count (b : Backoff) (c : Connection) :
    (b.count c).attempts = min ((if c.isOpen then 0 else b.attempts) + 1) countLimit := by
  unfold count
  split <;> rfl

theorem next_eq_none_iff (b : Backoff) :
    b.next.2 = none ↔ isSpent b.limit b.next.1.attempts = true := by
  simp only [next, ite_eq_left_iff, reduceCtorEq, imp_false, Bool.not_eq_true,
    Bool.not_eq_false]

theorem isSpent_min_eq_false_iff (limit n : Nat) :
    isSpent (some limit) (min n countLimit) = false ↔ countLimit ≤ limit ∨ n ≤ limit := by
  rw [isSpent, decide_eq_false_iff_not]
  omega

/-- A backoff that starts afresh is one ahead of the failed reconnects, as far as it can count. -/
theorem attempts_foldl_count {b : Backoff} (fresh : b.attempts = 0) {made : List Connection}
    (some : made ≠ []) :
    (made.foldl count b).attempts =
      min (Connection.failedReconnects made + 1) countLimit := by
  obtain ⟨first, later, rfl⟩ := List.exists_cons_of_ne_nil some
  clear some
  induction later using List.reverseRecOn with
  | nil =>
    rw [List.foldl_cons, List.foldl_nil, attempts_count, fresh, ite_self]
    rfl
  | append_singleton later c ih =>
    rw [← List.cons_append, List.foldl_append, List.foldl_cons, List.foldl_nil, attempts_count, ih,
      Connection.failedReconnects_cons_concat]
    split
    · rfl
    · omega

end Backoff

namespace Moment

/-- The delays that are over, in order. -/
def delays (ms : List Moment) : List Nat := ms.filterMap delay?

/-- Whether a request for the stream goes out or a delay is over at a moment. -/
def isPacing (m : Moment) : Bool := m.isRequest || m.delay?.isSome

theorem Passes.not_pacing {m : Moment} (step : Passes .streaming m .streaming) :
    m.isPacing = false := by
  cases step <;> rfl

end Moment

namespace Worker

open Moment

theorem handle_backoff (w : Worker) (payload : String) :
    (w.handle payload).1.backoff = w.backoff := by
  rcases w.handle_cases payload with ⟨m, _, handled⟩ | ⟨_, report, handled⟩
  · rw [handled, apply_eq]
  · rw [handled]
    rfl

theorem handleAll_backoff (w : Worker) (payloads : List String) :
    (w.handleAll payloads).1.backoff = w.backoff := by
  induction payloads generalizing w with
  | nil => rfl
  | cons payload rest ih => rw [handleAll_cons, ih, handle_backoff]

theorem connect_backoff (w : Worker) (c : Connection) :
    (w.connect c).1.backoff = if c.isOpen then w.backoff.reset else w.backoff := by
  rw [(w.connect_eq c).1]
  cases c with
  | failed cause => rfl
  | opened body => exact handleAll_backoff _ _

theorem next_connect (w : Worker) (c : Connection) :
    (w.connect c).1.backoff.next.1 = w.backoff.count c := by
  rw [connect_backoff]
  rfl

/-- After an attempt the limit is spent where the backoff that counts the attempt is beyond it. -/
theorem next_connect_eq_none_iff (w : Worker) (c : Connection) :
    (w.connect c).1.backoff.next.2 = none ↔
      Backoff.isSpent w.backoff.limit (w.backoff.count c).attempts = true := by
  have limit : (w.connect c).1.backoff.limit = w.backoff.limit := by
    rw [connect_backoff]
    split <;> rfl
  rw [Backoff.next_eq_none_iff, limit, next_connect]

/-- Whether a run goes on after an attempt. -/
def GoesOn (w : Worker) (c : Connection) : Prop :=
  Frame.done ∉ c.frames ∧
    Backoff.isSpent w.backoff.limit (w.backoff.count c).attempts = false

/-- A run that goes on after its first attempt is the same run with one attempt less, by a worker
whose backoff has counted that attempt. Any other run makes one request. -/
theorem requests_run_cons (w : Worker) (c : Connection) (rest : List Connection) :
    (¬ w.GoesOn c ∧ requests (w.run (c :: rest)) = 1) ∨
      (w.GoesOn c ∧ ∃ next : Worker, next.backoff = w.backoff.count c ∧
        requests (w.run (c :: rest)) = requests (next.run rest) + 1) := by
  obtain ⟨tail, told, sequel⟩ := w.run_cons c rest
  have counted : requests (w.run (c :: rest)) = requests tail + 1 := by
    rw [told, requests_append, requests_append, requests_connect]
    exact Nat.add_comm 1 (requests tail)
  have ended := w.connect_failure_iff c
  have spent := w.next_connect_eq_none_iff c
  rw [counted]
  generalize (w.connect c).2.2 = failure at sequel ended
  cases sequel with
  | finished => exact Or.inl ⟨fun on => on.1 (ended.mp rfl), rfl⟩
  | spent tried =>
    have reached := spent.mp (by rw [tried])
    exact Or.inl ⟨fun on => Bool.false_ne_true (on.2.symm.trans reached), rfl⟩
  | @again cause after delay tried =>
    have lost : Frame.done ∉ c.frames := fun done => by cases ended.mpr done
    have unspent : Backoff.isSpent w.backoff.limit (w.backoff.count c).attempts = false := by
      rw [← Bool.not_eq_true, ← spent, tried]
      exact Option.some_ne_none delay
    have next : after = w.backoff.count c := by rw [← next_connect, tried]
    have quiet : requests [.lost cause, .entered .reconnecting, .waiting, .slept delay] = 0 := rfl
    refine Or.inr ⟨⟨lost, unspent⟩, { (w.connect c).1 with backoff := after }, next, ?_⟩
    rw [requests_append, quiet, Nat.zero_add]

/-- A request goes out exactly where none of the attempts before it brought the word that the stream
is over, and none of them spent the limit. -/
theorem lt_requests_run_iff (w : Worker) (attempts : List Connection) (i : Nat) :
    i < requests (w.run attempts) ↔
      i ≤ attempts.length ∧ (∀ c ∈ attempts.take i, Frame.done ∉ c.frames) ∧
        ∀ j < i, Backoff.isSpent w.backoff.limit
          ((attempts.take (j + 1)).foldl Backoff.count w.backoff).attempts = false := by
  induction attempts generalizing w i with
  | nil =>
    have one : requests (w.run []) = 1 := rfl
    rw [one, Nat.lt_one_iff, List.length_nil, Nat.le_zero]
    constructor
    · rintro rfl
      exact ⟨rfl, List.forall_mem_nil _, fun j below => absurd below (Nat.not_lt_zero j)⟩
    · exact fun told => told.1
  | cons c rest ih =>
    cases i with
    | zero =>
      have first : 0 < requests (w.run (c :: rest)) := by
        obtain ⟨-, one⟩ | ⟨-, next, -, more⟩ := w.requests_run_cons c rest <;> omega
      simp [first]
    | succ i =>
      rw [Nat.forall_lt_succ_left, List.take_succ_cons, List.forall_mem_cons, List.length_cons,
        Nat.add_le_add_iff_right]
      obtain ⟨stops, one⟩ | ⟨⟨lost, unspent⟩, next, backoff, more⟩ := w.requests_run_cons c rest
      · rw [one]
        constructor
        · exact fun below => absurd (Nat.lt_of_succ_lt_succ below) (Nat.not_lt_zero i)
        · rintro ⟨-, ⟨lost, -⟩, unspent, -⟩
          exact absurd ⟨lost, unspent⟩ stops
      · rw [more, Nat.add_lt_add_iff_right, ih, backoff, Backoff.limit_count]
        constructor
        · rintro ⟨short, later, unspentLater⟩
          exact ⟨short, ⟨lost, later⟩, unspent, unspentLater⟩
        · rintro ⟨short, ⟨-, later⟩, -, unspentLater⟩
          exact ⟨short, later, unspentLater⟩

theorem connect_not_pacing (w : Worker) (c : Connection) :
    ∀ m ∈ (w.connect c).2.1, m.isPacing = false := by
  cases c with
  | failed cause => exact List.forall_mem_nil _
  | opened body =>
    refine List.forall_mem_cons.mpr ⟨rfl, ?_⟩
    intro m member
    exact (takeChunks_streaming _ .start body.ending body.chunks m member).not_pacing

theorem delays_eq_nil {ms : List Moment} (unpaced : ∀ m ∈ ms, m.isPacing = false) :
    delays ms = [] := by
  rw [delays, List.filterMap_eq_nil_iff]
  intro m member
  have not_delay := (Bool.or_eq_false_iff.mp (unpaced m member)).2
  exact Option.not_isSome_iff_eq_none.mp (Bool.eq_false_iff.mp not_delay)

/-- A run starts with a request, and each further request comes after a delay of its own. -/
theorem run_paced (w : Worker) (attempts : List Connection) :
    (w.run attempts).filter isPacing =
      .requested :: (delays (w.run attempts)).flatMap fun ms => [.slept ms, .requested] := by
  induction attempts generalizing w with
  | nil => rfl
  | cons c rest ih =>
    obtain ⟨tail, told, sequel⟩ := w.run_cons c rest
    have silent : (w.connect c).2.1.filter isPacing = [] := by
      rw [List.filter_eq_nil_iff]
      intro m member
      exact Bool.eq_false_iff.mp (w.connect_not_pacing c m member)
    have noDelay : delays (w.connect c).2.1 = [] := delays_eq_nil (w.connect_not_pacing c)
    have paced : (w.run (c :: rest)).filter isPacing = .requested :: tail.filter isPacing := by
      rw [told, List.filter_append, List.filter_append, silent]
      rfl
    have delayed : delays (w.run (c :: rest)) = delays tail := by
      rw [told, delays, List.filterMap_append, List.filterMap_append]
      exact congrArg (fun ms => ms ++ delays tail) noDelay
    rw [paced, delayed]
    generalize (w.connect c).2.2 = failure at sequel
    cases sequel with
    | finished => rfl
    | spent tried => rfl
    | again tried => exact congrArg (fun ms => _ :: _ :: ms) (ih _)

end Worker

namespace Session

open Moment Connection

/-- A session makes another request exactly where the stream is not over and its limit, if it has
one that it can count to, is not spent. -/
theorem lt_requests_run_iff (s : Session) (receipts : List Bool) (attempts : List Connection)
    (i : Nat) :
    i < requests (s.run receipts attempts) ↔
      i ≤ attempts.length ∧ (∀ c ∈ attempts.take i, Frame.done ∉ c.frames) ∧
        (s.settings.maxReconnectAttempts = 0 ∨
          Backoff.countLimit ≤ s.settings.maxReconnectAttempts ∨
          ∀ n ≤ i, failedReconnects (attempts.take n) < s.settings.maxReconnectAttempts) := by
  have begun : requests (s.run receipts attempts) =
      requests ((s.start receipts).run attempts) := rfl
  rw [begun, Worker.lt_requests_run_iff]
  apply and_congr_right
  intro short
  apply and_congr_right
  intro _
  have limit : (s.start receipts).backoff.limit = s.settings.reconnectLimit := rfl
  rw [limit, StreamSettings.reconnectLimit]
  by_cases unlimited : s.settings.maxReconnectAttempts = 0
  · simp [unlimited, Backoff.isSpent]
  · rw [if_pos (Nat.pos_of_ne_zero unlimited), or_iff_right unlimited]
    have counts : ∀ j < i,
        (Backoff.isSpent (some s.settings.maxReconnectAttempts)
            ((attempts.take (j + 1)).foldl Backoff.count (s.start receipts).backoff).attempts =
          false ↔
        Backoff.countLimit ≤ s.settings.maxReconnectAttempts ∨
          failedReconnects (attempts.take (j + 1)) < s.settings.maxReconnectAttempts) := by
      intro j below
      have some : attempts.take (j + 1) ≠ [] := by
        rw [Ne, List.take_eq_nil_iff]
        rintro (never | rfl)
        · cases never
        · exact absurd short (Nat.not_le_of_lt (Nat.zero_lt_of_lt below))
      rw [Backoff.attempts_foldl_count rfl some, Backoff.isSpent_min_eq_false_iff,
        Nat.succ_le_iff]
    rw [forall₂_congr counts]
    constructor
    · intro unspent
      by_cases beyond : Backoff.countLimit ≤ s.settings.maxReconnectAttempts
      · exact Or.inl beyond
      · refine Or.inr fun n upTo => ?_
        cases n with
        | zero => exact Nat.pos_of_ne_zero unlimited
        | succ n => exact (unspent n upTo).resolve_left beyond
    · rintro (beyond | unspent) j below
      · exact Or.inl beyond
      · exact Or.inr (unspent (j + 1) below)

theorem requests_run_pos (s : Session) (receipts : List Bool) (attempts : List Connection) :
    0 < requests (s.run receipts attempts) := by
  have begun : requests (s.run receipts attempts) =
      requests ((s.start receipts).run attempts) := rfl
  rw [begun, Worker.lt_requests_run_iff]
  exact ⟨Nat.zero_le _, List.forall_mem_nil _, fun j below => absurd below (Nat.not_lt_zero j)⟩

/-- Whether the limit of a session, if it has one that it can count to, leaves it another reconnect
after some attempts. -/
def Allows (s : Session) (made : List Connection) : Prop :=
  s.settings.maxReconnectAttempts = 0 ∨ Backoff.countLimit ≤ s.settings.maxReconnectAttempts ∨
    failedReconnects made < s.settings.maxReconnectAttempts

/-- After a requested attempt another one is requested, unless the stream or the limit has come to
its end. -/
theorem next_request_iff (s : Session) (receipts : List Bool) {attempts : List Connection} {i : Nat}
    {c : Connection} (reached : attempts[i]? = some c)
    (requested : i < requests (s.run receipts attempts)) :
    i + 1 < requests (s.run receipts attempts) ↔
      Frame.done ∉ c.frames ∧ s.Allows (attempts.take (i + 1)) := by
  obtain ⟨-, lost, unspent⟩ := (s.lt_requests_run_iff receipts attempts i).mp requested
  obtain ⟨within, found⟩ := List.getElem?_eq_some_iff.mp reached
  have made : attempts.take (i + 1) = attempts.take i ++ [c] := by
    rw [← found, List.take_append_getElem within]
  rw [lt_requests_run_iff]
  constructor
  · rintro ⟨-, lostNow, unspentNow⟩
    refine ⟨lostNow c ?_, ?_⟩
    · rw [made]
      exact List.mem_append_right _ List.mem_cons_self
    · exact unspentNow.imp_right fun limited =>
        limited.imp_right fun below => below (i + 1) (Nat.le_refl _)
  · rintro ⟨notDone, allowed⟩
    have lostSoFar : ∀ d ∈ attempts.take (i + 1), Frame.done ∉ d.frames := by
      rw [made]
      exact List.forall_mem_append.mpr ⟨lost, List.forall_mem_singleton.mpr notDone⟩
    refine ⟨within, lostSoFar, ?_⟩
    rcases allowed with unlimited | beyond | below
    · exact Or.inl unlimited
    · exact Or.inr (Or.inl beyond)
    · refine unspent.imp_right fun limited => limited.imp_right fun earlier n upTo => ?_
      rcases Nat.le_succ_iff.mp upTo with before | rfl
      · exact earlier n before
      · exact below

/-- A session without a limit makes a request after every attempt that does not end the stream. -/
theorem requests_run_of_unlimited {s : Session} (unlimited : s.settings.maxReconnectAttempts = 0)
    (receipts : List Bool) {attempts : List Connection}
    (lost : ∀ c ∈ attempts, Frame.done ∉ c.frames) :
    requests (s.run receipts attempts) = attempts.length + 1 := by
  have goesOn := s.lt_requests_run_iff receipts attempts
  have last : attempts.length < requests (s.run receipts attempts) := by
    rw [goesOn, List.take_length]
    exact ⟨Nat.le_refl _, lost, Or.inl unlimited⟩
  have beyond : ¬ attempts.length + 1 < requests (s.run receipts attempts) := by
    rw [goesOn]
    exact fun told => Nat.not_succ_le_self _ told.1
  omega

theorem isOver_run_iff_of_unlimited {s : Session}
    (unlimited : s.settings.maxReconnectAttempts = 0) (receipts : List Bool)
    (attempts : List Connection) :
    isOver (s.run receipts attempts) = true ↔
      ∃ c ∈ attempts.take (requests (s.run receipts attempts)), Frame.done ∈ c.frames := by
  rw [isOver_run_iff]
  constructor
  · intro within
    by_contra notDone
    have lost : ∀ c ∈ attempts.take (requests (s.run receipts attempts)),
        Frame.done ∉ c.frames := fun c member done => notDone ⟨c, member, done⟩
    exact Nat.lt_irrefl _ ((s.lt_requests_run_iff receipts attempts _).mpr
      ⟨within, lost, Or.inl unlimited⟩)
  · rintro ⟨c, member, done⟩
    obtain ⟨i, below, found⟩ := List.mem_take_iff_getElem.mp member
    have reached : attempts[i]? = some c :=
      List.getElem?_eq_some_iff.mpr ⟨Nat.lt_of_lt_of_le below (Nat.min_le_right _ _), found⟩
    have stops := s.requests_run_le receipts reached done
    omega

section Limited

variable {s : Session} (limited : 0 < s.settings.maxReconnectAttempts)
  (countable : s.settings.maxReconnectAttempts < Backoff.countLimit)

include limited countable

theorem lt_requests_run_iff_of_limited (receipts : List Bool) (attempts : List Connection)
    (i : Nat) :
    i < requests (s.run receipts attempts) ↔
      i ≤ attempts.length ∧ (∀ c ∈ attempts.take i, Frame.done ∉ c.frames) ∧
        ∀ n ≤ i, failedReconnects (attempts.take n) < s.settings.maxReconnectAttempts := by
  rw [lt_requests_run_iff, or_iff_right (Nat.ne_of_gt limited),
    or_iff_right (Nat.not_le_of_lt countable)]

/-- A session that closes before the stream is over has spent its limit. -/
theorem failedReconnects_of_over {receipts : List Bool} {attempts : List Connection}
    (within : requests (s.run receipts attempts) ≤ attempts.length)
    (lost : ∀ c ∈ attempts.take (requests (s.run receipts attempts)), Frame.done ∉ c.frames) :
    failedReconnects (attempts.take (requests (s.run receipts attempts))) =
      s.settings.maxReconnectAttempts := by
  have goesOn := lt_requests_run_iff_of_limited limited countable receipts attempts
  obtain ⟨last, made⟩ := Nat.exists_eq_add_one_of_ne_zero
    (Nat.ne_of_gt (s.requests_run_pos receipts attempts))
  rw [made] at goesOn within lost ⊢
  obtain ⟨_, _, unspent⟩ := (goesOn last).mp (Nat.lt_succ_self last)
  -- One more request would go out if the limit were not spent by now.
  have spent : ¬ failedReconnects (attempts.take (last + 1)) <
      s.settings.maxReconnectAttempts := by
    intro below
    refine Nat.lt_irrefl (last + 1) ((goesOn (last + 1)).mpr ⟨within, lost, ?_⟩)
    intro n upTo
    rcases Nat.le_succ_iff.mp upTo with earlier | rfl
    · exact unspent n earlier
    · exact below
  have before := unspent last (Nat.le_refl last)
  have step := failedReconnects_concat_le (attempts.take last) attempts[last]
  rw [List.take_append_getElem within] at step
  omega

/-- A session that has spent its limit is over, although the stream is not. -/
theorem over_of_failedReconnects {receipts : List Bool} {attempts : List Connection}
    (spent : failedReconnects (attempts.take (requests (s.run receipts attempts))) =
      s.settings.maxReconnectAttempts) :
    requests (s.run receipts attempts) ≤ attempts.length ∧
      ∀ c ∈ attempts.take (requests (s.run receipts attempts)), Frame.done ∉ c.frames := by
  have goesOn := lt_requests_run_iff_of_limited limited countable receipts attempts
  obtain ⟨last, made⟩ := Nat.exists_eq_add_one_of_ne_zero
    (Nat.ne_of_gt (s.requests_run_pos receipts attempts))
  rw [made] at goesOn spent ⊢
  obtain ⟨_, lost, unspent⟩ := (goesOn last).mp (Nat.lt_succ_self last)
  have before := unspent last (Nat.le_refl last)
  have within : last < attempts.length := by
    by_contra beyond
    have whole : attempts.take (last + 1) = attempts.take last := by
      rw [List.take_of_length_le (by omega), List.take_of_length_le (by omega)]
    rw [← whole, spent] at before
    exact Nat.lt_irrefl _ before
  refine ⟨within, ?_⟩
  rw [← List.take_append_getElem within] at spent ⊢
  refine List.forall_mem_append.mpr ⟨lost, List.forall_mem_singleton.mpr ?_⟩
  intro done
  rw [failedReconnects_of_open _ (isOpen_of_done done)] at spent
  exact Nat.ne_of_lt limited spent

/-- A session that never opens makes as many reconnects as its limit says. -/
theorem requests_run_of_closed (receipts : List Bool) {attempts : List Connection}
    (closed : ∀ c ∈ attempts, c.isOpen = false) :
    requests (s.run receipts attempts) =
      min s.settings.maxReconnectAttempts attempts.length + 1 := by
  have counted : ∀ n, failedReconnects (attempts.take n) = min n attempts.length - 1 := by
    intro n
    rw [failedReconnects_of_closed fun c member => closed c (List.mem_of_mem_take member),
      List.length_take]
  have same : ∀ i, i < requests (s.run receipts attempts) ↔
      i < min s.settings.maxReconnectAttempts attempts.length + 1 := by
    intro i
    rw [lt_requests_run_iff_of_limited limited countable]
    simp only [counted]
    constructor
    · rintro ⟨short, _, unspent⟩
      have last := unspent i (Nat.le_refl i)
      omega
    · intro below
      refine ⟨by omega, ?_, fun n upTo => by omega⟩
      intro c member done
      have opened := isOpen_of_done done
      rw [closed c (List.mem_of_mem_take member)] at opened
      cases opened
  have here := same (requests (s.run receipts attempts))
  have there := same (min s.settings.maxReconnectAttempts attempts.length + 1)
  omega

/-- An attempt that opens and is lost is followed by as many reconnects as the limit says, if none
of them opens, whatever came before it. -/
theorem requests_run_after_open {receipts : List Bool} {before after : List Connection}
    {c : Connection}
    (reached : before.length < requests (s.run receipts (before ++ c :: after)))
    (opened : c.isOpen = true) (lost : Frame.done ∉ c.frames)
    (closed : ∀ c ∈ after, c.isOpen = false) :
    requests (s.run receipts (before ++ c :: after)) =
      before.length + 1 + min s.settings.maxReconnectAttempts (after.length + 1) := by
  have goesOn := lt_requests_run_iff_of_limited limited countable receipts (before ++ c :: after)
  obtain ⟨_, notDone, unspent⟩ := (goesOn before.length).mp reached
  rw [List.take_left' rfl] at notDone
  have upTo : ∀ k, (before ++ c :: after).take (before.length + 1 + k) =
      before ++ c :: after.take k := by
    intro k
    rw [Nat.add_assoc, List.take_length_add_append, Nat.add_comm 1 k, List.take_succ_cons]
  have counted : ∀ k, failedReconnects ((before ++ c :: after).take (before.length + 1 + k)) =
      min k after.length := by
    intro k
    rw [upTo, failedReconnects_append_open before opened
      fun c member => closed c (List.mem_of_mem_take member), List.length_take]
  have same : ∀ k, before.length + 1 + k < requests (s.run receipts (before ++ c :: after)) ↔
      k < min s.settings.maxReconnectAttempts (after.length + 1) := by
    intro k
    rw [goesOn, List.length_append, List.length_cons, upTo]
    constructor
    · rintro ⟨short, _, unspentLater⟩
      have last := unspentLater _ (Nat.le_refl _)
      rw [counted] at last
      omega
    · intro below
      refine ⟨by omega, ?_, ?_⟩
      · refine List.forall_mem_append.mpr ⟨notDone, List.forall_mem_cons.mpr ⟨lost, ?_⟩⟩
        intro d member done
        have openedToo := isOpen_of_done done
        rw [closed d (List.mem_of_mem_take member)] at openedToo
        cases openedToo
      · intro n within
        rcases Nat.lt_or_ge before.length n with later | earlier
        · obtain ⟨j, rfl⟩ := Nat.exists_eq_add_of_lt later
          have next : before.length + j + 1 = before.length + 1 + j := by omega
          rw [next, counted]
          omega
        · exact unspent n earlier
  have first := same 0
  have here := same (requests (s.run receipts (before ++ c :: after)) - (before.length + 1))
  have there := same (min s.settings.maxReconnectAttempts (after.length + 1))
  omega

end Limited

/-- A session makes its first request at once and each further one after a delay of its own. With
no limit it closes only when the stream is over. With a limit it closes before that exactly when as
many reconnects in a row have failed to open, counted from the last attempt that opened or from the
first of all: a session that never opens makes one request more than its limit, and an attempt that
opens and is lost is followed by as many attempts as the limit says, whatever failed before it. No
request follows the word that the stream is over. -/
theorem gives_up_after_failed_reconnects (s : Session) (receipts : List Bool)
    (attempts : List Connection) :
    let limit := s.settings.maxReconnectAttempts
    let run := s.run receipts attempts
    let made := attempts.take (requests run)
    run.filter isPacing = .requested :: ((delays run).flatMap fun ms => [.slept ms, .requested]) ∧
    (limit = 0 →
      (isOver run = true ↔ ∃ c ∈ made, Frame.done ∈ c.frames) ∧
      ((∀ c ∈ attempts, Frame.done ∉ c.frames) → requests run = attempts.length + 1)) ∧
    (1 ≤ limit → limit < Backoff.countLimit →
      (isOver run = true ∧ (∀ c ∈ made, Frame.done ∉ c.frames) ↔ failedReconnects made = limit) ∧
      (∀ n < requests run, failedReconnects (attempts.take n) < limit) ∧
      ((∀ c ∈ attempts, c.isOpen = false) → requests run = min limit attempts.length + 1) ∧
      ∀ before c after, attempts = before ++ c :: after → before.length < requests run →
        c.isOpen = true → Frame.done ∉ c.frames → (∀ d ∈ after, d.isOpen = false) →
        requests run = before.length + 1 + min limit (after.length + 1)) ∧
    ∀ (i : Nat) c, attempts[i]? = some c → Frame.done ∈ c.frames → requests run ≤ i + 1 := by
  refine ⟨?_, ?_, ?_, ?_⟩
  · exact (s.start receipts).run_paced attempts
  · intro unlimited
    exact ⟨isOver_run_iff_of_unlimited unlimited receipts attempts,
      requests_run_of_unlimited unlimited receipts⟩
  · intro limited countable
    refine ⟨?_, ?_, ?_, ?_⟩
    · rw [isOver_run_iff]
      exact ⟨fun told => failedReconnects_of_over limited countable told.1 told.2,
        over_of_failedReconnects limited countable⟩
    · intro n requested
      have goesOn := lt_requests_run_iff_of_limited limited countable receipts attempts n
      exact (goesOn.mp requested).2.2 n (Nat.le_refl n)
    · exact requests_run_of_closed limited countable receipts
    · rintro before c after rfl reached opened lost closed
      exact requests_run_after_open limited countable reached opened lost closed
  · intro i c reached ended
    exact s.requests_run_le receipts reached ended

-- With a limit of two, a session that never opens makes three requests.
example (settings : StreamSettings) :
    requests (Session.run ⟨"s", { settings with maxReconnectAttempts := 2 }⟩ []
      (List.replicate 5 (.failed .broken))) = 3 := rfl

end Session

end RemoteSurface
