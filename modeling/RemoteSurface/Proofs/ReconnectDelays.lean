import RemoteSurface.Proofs.BackoffDelays
import RemoteSurface.Proofs.ReconnectLimit
/-!
Delays of a session. A session with loaded settings never asks twice without a delay between, and
no delay is shorter than the first one or longer than the cap. As long as no attempt opens, no delay
is shorter than the one before.
-/
namespace RemoteSurface

namespace Moment

/-- From one backoff to another while moments go by: each delay that is over is the one that the
backoff gives next, and an attempt that opens starts it over. -/
inductive BacksOff : Backoff → List Moment → Backoff → Prop where
  | nil (b : Backoff) : BacksOff b [] b
  | slept {b next last : Backoff} {ms : Nat} {rest : List Moment}
    (given : b.next = (next, some ms)) (later : BacksOff next rest last) :
    BacksOff b (.slept ms :: rest) last
  | opened {b last : Backoff} {rest : List Moment} (later : BacksOff b.reset rest last) :
    BacksOff b (.entered .streaming :: rest) last
  | quietly {b last : Backoff} {m : Moment} {rest : List Moment} (noDelay : m.delay? = none)
    (notOpen : m.phase? ≠ some .streaming) (later : BacksOff b rest last) :
    BacksOff b (m :: rest) last

theorem delays_cons_of_none {m : Moment} (noDelay : m.delay? = none) (ms : List Moment) :
    delays (m :: ms) = delays ms :=
  List.filterMap_cons_none noDelay

theorem streaming_not_mem_phases_cons {m : Moment} {ms : List Moment} :
    Phase.streaming ∉ phases (m :: ms) ↔
      m.phase? ≠ some .streaming ∧ Phase.streaming ∉ phases ms := by
  simp only [phases, List.mem_filterMap, List.mem_cons, exists_eq_or_imp, not_or, ne_eq]

namespace BacksOff

variable {b next last : Backoff} {ms ns : List Moment}

theorem append (first : BacksOff b ms next) (second : BacksOff next ns last) :
    BacksOff b (ms ++ ns) last := by
  induction first with
  | nil b => exact second
  | slept given _ ih => exact .slept given (ih second)
  | opened _ ih => exact .opened (ih second)
  | quietly noDelay notOpen _ ih => exact .quietly noDelay notOpen (ih second)

theorem split (told : BacksOff b (ms ++ ns) last) :
    ∃ next, BacksOff b ms next ∧ BacksOff next ns last := by
  induction ms generalizing b with
  | nil => exact ⟨b, .nil b, told⟩
  | cons m ms ih =>
    cases told with
    | slept given later =>
      obtain ⟨next, before, after⟩ := ih later
      exact ⟨next, .slept given before, after⟩
    | opened later =>
      obtain ⟨next, before, after⟩ := ih later
      exact ⟨next, .opened before, after⟩
    | quietly noDelay notOpen later =>
      obtain ⟨next, before, after⟩ := ih later
      exact ⟨next, .quietly noDelay notOpen before, after⟩

/-- What happens while the session streams leaves the backoff alone. -/
theorem of_forall (stays : ∀ m ∈ ms, Passes .streaming m .streaming) : BacksOff b ms b := by
  induction ms with
  | nil => exact .nil b
  | cons m ms ih =>
    obtain ⟨here, later⟩ := List.forall_mem_cons.mp stays
    cases here with
    | enters again => cases again
    | _ => exact .quietly rfl nofun (ih later)

/-- Every delay is one that the backoff has for some attempt. -/
theorem eq_delay (told : BacksOff b ms last) :
    ∀ d ∈ delays ms, ∃ attempt, d = b.delay attempt := by
  induction told with
  | nil b => exact List.forall_mem_nil _
  | slept given _ ih =>
    obtain ⟨rfl, rfl⟩ := Backoff.next_eq_some given
    exact List.forall_mem_cons.mpr ⟨⟨_, rfl⟩, ih⟩
  | opened _ ih => exact ih
  | quietly noDelay _ _ ih =>
    rw [delays_cons_of_none noDelay]
    exact ih

/-- While no attempt opens, the delays start at the one that the backoff has next, and none is
shorter than the one before. -/
theorem pairwise_delays (told : BacksOff b ms last) (closed : Phase.streaming ∉ phases ms) :
    (∀ d ∈ delays ms, b.delay (b.attempts + 1) ≤ d) ∧ (delays ms).Pairwise (· ≤ ·) := by
  -- The order needs the bound: the delay in front is compared with all of those behind it.
  induction told with
  | nil b => exact ⟨List.forall_mem_nil _, .nil⟩
  | @slept b next last ms rest given _ ih =>
    obtain ⟨least, sorted⟩ := ih (streaming_not_mem_phases_cons.mp closed).2
    obtain ⟨rfl, rfl⟩ := Backoff.next_eq_some given
    have atLeast : ∀ d ∈ delays rest, b.delay (b.attempts + 1) ≤ d := by
      intro d member
      calc b.delay (b.attempts + 1)
          = b.delay (min (b.attempts + 1) Backoff.countLimit) := (b.delay_min _).symm
        _ ≤ b.delay (min (b.attempts + 1) Backoff.countLimit + 1) := b.delay_mono (Nat.le_succ _)
        _ ≤ d := least d member
    exact ⟨List.forall_mem_cons.mpr ⟨Nat.le_refl _, atLeast⟩, .cons atLeast sorted⟩
  | opened _ _ => exact absurd rfl (streaming_not_mem_phases_cons.mp closed).1
  | quietly noDelay _ _ ih =>
    rw [delays_cons_of_none noDelay]
    exact ih (streaming_not_mem_phases_cons.mp closed).2

end BacksOff

/-- Of two moments one is a request and the other is not. -/
def TakeTurns (m n : Moment) : Prop := m.isRequest ≠ n.isRequest

theorem takeTurns_delays (ds : List Nat) :
    List.IsChain TakeTurns (.requested :: ds.flatMap fun ms => [.slept ms, .requested]) := by
  induction ds with
  | nil => exact List.isChain_singleton _
  | cons d ds ih =>
    exact List.isChain_cons_cons.mpr
      ⟨Bool.false_ne_true.symm, List.isChain_cons_cons.mpr ⟨Bool.false_ne_true, ih⟩⟩

theorem delays_filter_isPacing (ms : List Moment) : delays (ms.filter isPacing) = delays ms := by
  rw [delays, List.filterMap_filter]
  apply List.filterMap_congr
  intro m _
  cases m <;> rfl

/-- Where requests and delays take turns, there is one delay between a request and the next. -/
theorem delays_between {between after : List Moment} (none : requests between = 0)
    (turns : List.IsChain TakeTurns
      ((.requested :: (between ++ .requested :: after)).filter isPacing)) :
    ∃ d, delays between = [d] := by
  have sleeps : ∀ m ∈ between.filter isPacing, ∃ d, m = .slept d := by
    intro m member
    obtain ⟨there, pacing⟩ := List.mem_filter.mp member
    have noRequest : m.isRequest ≠ true := List.countP_eq_zero.mp none m there
    cases m with
    | slept d => exact ⟨d, rfl⟩
    | requested => exact absurd rfl noRequest
    | _ => cases pacing
  have chain : List.IsChain TakeTurns
      (.requested :: (between.filter isPacing ++ .requested :: after.filter isPacing)) := by
    rw [List.filter_cons_of_pos rfl, List.filter_append, List.filter_cons_of_pos rfl] at turns
    exact turns
  rw [← delays_filter_isPacing]
  generalize between.filter isPacing = pacing at sleeps chain
  match pacing with
  | [] => exact absurd rfl (List.isChain_cons_cons.mp chain).1
  | [m] =>
    obtain ⟨d, rfl⟩ := sleeps m (.head _)
    exact ⟨d, rfl⟩
  | m :: n :: rest =>
    obtain ⟨d, rfl⟩ := sleeps m (.head _)
    obtain ⟨e, rfl⟩ := sleeps n (.tail _ (.head _))
    exact absurd rfl (List.isChain_cons_cons.mp (List.isChain_cons_cons.mp chain).2).1

end Moment

namespace Worker

open Moment

theorem attempt_backsOff (b : Backoff) : BacksOff b attempt b :=
  .quietly rfl nofun (.quietly rfl nofun (.quietly rfl nofun (.quietly rfl nofun (.nil b))))

theorem connect_backsOff (w : Worker) (c : Connection) :
    BacksOff w.backoff (w.connect c).2.1 (w.connect c).1.backoff := by
  rw [connect_backoff]
  cases c with
  | failed cause => exact .nil _
  | opened body =>
    exact .opened (.of_forall (takeChunks_streaming _ .start body.ending body.chunks))

theorem run_backsOff (w : Worker) (attempts : List Connection) :
    ∃ last, BacksOff w.backoff (w.run attempts) last := by
  induction attempts generalizing w with
  | nil => exact ⟨_, attempt_backsOff _⟩
  | cons c rest ih =>
    obtain ⟨tail, told, sequel⟩ := w.run_cons c rest
    have tried := (attempt_backsOff w.backoff).append (w.connect_backsOff c)
    rw [told]
    generalize (w.connect c).2.2 = failure at sequel
    cases sequel with
    | finished => exact ⟨_, tried.append (.quietly rfl nofun (.nil _))⟩
    | spent none =>
      exact ⟨_, tried.append
        (.quietly rfl nofun (.quietly rfl nofun (.quietly rfl nofun (.nil _))))⟩
    | again given =>
      obtain ⟨last, later⟩ := ih { (w.connect c).1 with backoff := _ }
      exact ⟨last, tried.append
        (.quietly rfl nofun (.quietly rfl nofun (.quietly rfl nofun (.slept given later))))⟩

end Worker

namespace Session

open Moment

variable {s : Session} {receipts : List Bool} {attempts : List Connection} {history : List Moment}

theorem history_backsOff (possible : s.MayRun receipts attempts history) :
    ∃ last, BacksOff s.settings.backoff history last := by
  obtain ⟨last, told⟩ := (s.start receipts).run_backsOff attempts
  have whole : BacksOff s.settings.backoff (s.run receipts attempts) last := .quietly rfl nofun told
  rcases possible with rfl | ⟨left, rfl⟩
  · exact ⟨last, whole⟩
  · obtain ⟨past, ⟨later, split⟩, same | closed⟩ := cancelled_cases left (s.run receipts attempts)
    all_goals
      rw [← split] at whole
      obtain ⟨next, before, -⟩ := whole.split
    · exact ⟨next, same ▸ before⟩
    · exact ⟨next, closed ▸ before.append (.quietly rfl nofun (.nil _))⟩

theorem history_takeTurns (possible : s.MayRun receipts attempts history) :
    List.IsChain TakeTurns (history.filter isPacing) := by
  have whole : List.IsChain TakeTurns ((s.run receipts attempts).filter isPacing) := by
    have paced := (s.start receipts).run_paced attempts
    have begun : (s.run receipts attempts).filter isPacing =
        ((s.start receipts).run attempts).filter isPacing := rfl
    rw [begun, paced]
    exact takeTurns_delays _
  rcases possible with rfl | ⟨left, rfl⟩
  · exact whole
  · obtain ⟨past, started, same | closed⟩ := cancelled_cases left (s.run receipts attempts)
    · rw [same]
      exact whole.prefix (started.filter isPacing)
    · have silent : (past ++ [Moment.entered .closed]).filter isPacing = past.filter isPacing := by
        rw [List.filter_append]
        exact List.append_nil _
      rw [closed, silent]
      exact whole.prefix (started.filter isPacing)

end Session

namespace Settings

open Moment

/-- Settings that are loaded, wherever they come from, are without fault. However a session with
them fares, and wherever it is cancelled, there is one delay between a request and the next, every
delay is at least the first one, which is not zero, and at most the cap, and as long as no attempt
opens no delay is shorter than the one before. -/
theorem loaded_sessions_pause_between_requests {file : SettingsFile} {baseUrl : Option String}
    {s : Settings} (loaded : load file baseUrl = .ok s) :
    s.isValid = true ∧ 1 ≤ s.stream.retryBackoffBaseMs ∧
      ∀ id receipts attempts history,
        Session.MayRun ⟨id, s.stream⟩ receipts attempts history →
        (∀ before between after,
          history = before ++ .requested :: (between ++ .requested :: after) →
          requests between = 0 → ∃ d, delays between = [d]) ∧
        (∀ d ∈ delays history,
          s.stream.retryBackoffBaseMs ≤ d ∧ d ≤ s.stream.retryBackoffMaxMs) ∧
        ∀ before between after, history = before ++ (between ++ after) →
          Phase.streaming ∉ phases between → (delays between).Pairwise (· ≤ ·) := by
  obtain ⟨valid, words⟩ := load_eq_ok loaded
  obtain ⟨-, -, some, inside⟩ := s.isValid_iff.mp valid
  refine ⟨valid, some, fun id receipts attempts history possible => ?_⟩
  obtain ⟨last, told⟩ := Session.history_backsOff possible
  refine ⟨?_, ?_, ?_⟩
  · rintro before between after rfl none
    have turns := Session.history_takeTurns possible
    rw [List.filter_append] at turns
    exact delays_between none turns.right_of_append
  · intro d member
    obtain ⟨attempt, rfl⟩ := told.eq_delay d member
    exact ⟨Backoff.base_le_delay inside words.cap_le_longest attempt,
      Backoff.delay_le_cap _ attempt⟩
  · rintro before between after rfl closed
    obtain ⟨next, -, rest⟩ := told.split
    obtain ⟨_, there, -⟩ := rest.split
    exact (there.pairwise_delays closed).2

theorem load_eq_ok_of_toOption {file : SettingsFile} {baseUrl : Option String} {s : Settings}
    (read : (load file baseUrl).toOption = some s) : load file baseUrl = .ok s := by
  cases loaded : load file baseUrl with
  | error failure =>
    rw [loaded] at read
    cases read
  | ok t =>
    rw [loaded] at read
    exact congrArg Except.ok (Option.some.inj read)

/-- A settings file that asks for a longer first delay. -/
def slowStart : SettingsFile :=
  .bytes (Text.encode "[stream]\nretry_backoff_base_ms = 3000\n".toList)

/-- A session that loses its stream five times, the fourth time after it was open. -/
def slowHistory : List Moment :=
  Session.run ⟨"s", { retryBackoffBaseMs := 3000 }⟩ []
    [.failed .broken, .failed .broken, .failed .broken, .opened ⟨[], .broken⟩, .failed .broken]

theorem slow_start_pauses :
    ∃ s, load slowStart (some "https://agent") = .ok s ∧ s.isValid = true ∧
      delays slowHistory = [3000, 6000, 10000, 3000, 6000] ∧
      (∃ d, delays ((slowHistory.drop 4).take 7) = [d]) ∧
      (∀ d ∈ delays slowHistory, 3000 ≤ d ∧ d ≤ 10000) ∧
      (delays (slowHistory.take 29)).Pairwise (· ≤ ·) := by
  have loaded : load slowStart (some "https://agent") =
      .ok ⟨⟨"https://agent"⟩, { retryBackoffBaseMs := 3000 }⟩ :=
    load_eq_ok_of_toOption (by decide +kernel)
  obtain ⟨valid, -, paced⟩ := loaded_sessions_pause_between_requests loaded
  obtain ⟨alone, bounded, sorted⟩ := paced "s" _ _ slowHistory (Or.inl rfl)
  have pause := alone (slowHistory.take 3) ((slowHistory.drop 4).take 7) (slowHistory.drop 12)
    rfl rfl
  -- The first attempt that opens is the fourth.
  have closed : Phase.streaming ∉ phases (slowHistory.take 29) := by decide
  exact ⟨_, loaded, valid, rfl, pause, bounded, sorted [] _ (slowHistory.drop 29) rfl closed⟩

end Settings

end RemoteSurface
