import RemoteSurface.Proofs.ReconnectLimit
/-!
What sessions make of attempts. A run is told by what its attempts deliver, however their bytes come
in, and an attempt is requested if none before it has brought the stream or the limit to its end.
-/
namespace RemoteSurface

namespace Session

open Moment

theorem history_payloads {s : Session} {receipts : List Bool} {attempts : List Connection}
    {history : List Moment} (possible : s.MayRun receipts attempts history) :
    payloads history <+: payloads (s.run receipts attempts) := by
  rcases possible with rfl | ⟨left, rfl⟩
  · exact List.prefix_refl _
  · obtain ⟨past, started, whole | closed⟩ := cancelled_cases left (s.run receipts attempts)
    · rw [whole]
      exact started.filterMap payload?
    · rw [closed, payloads_append]
      exact (List.append_nil (payloads past)).symm ▸ started.filterMap payload?

/-- Attempts of the same outcomes make for the same payloads and the same last snapshot. -/
theorem run_congr (s : Session) (receipts : List Bool) {attempts others : List Connection}
    (alike : ∀ idle,
      attempts.map (Connection.outcome idle) = others.map (Connection.outcome idle)) :
    payloads (s.run receipts attempts) = payloads (s.run receipts others) ∧
      snapshot (s.run receipts attempts) = snapshot (s.run receipts others) := by
  have same : busy (s.run receipts attempts) = busy (s.run receipts others) := by
    rw [busy_run, busy_run, course, course, alike]
  refine ⟨?_, ?_⟩
  · rw [← payloads_busy, same, payloads_busy]
  · rw [snapshot, ← filterMap_busy rfl, same, filterMap_busy rfl]
    rfl

/-- A session is a replay. Whether or not it is cancelled while it waits, its readers see at every
moment the replay, from the empty snapshot, of the well-formed messages among the payloads taken so
far, and these are the first payloads of its run. The run takes the payloads that the attempts it
requests deliver before the word that the stream is over, one attempt after another. It requests a
first attempt, and another one after an attempt exactly if that brings no such word and the limit is
not spent. The cuts between chunks do not matter, nor do bytes that complete no event in a body that
is not complete; a complete body delivers what it would with an empty line after it. -/
theorem runs_are_replays (s : Session) (receipts : List Bool) (attempts : List Connection) :
    (∀ history, s.MayRun receipts attempts history →
      (∀ past, past <+: history →
        snapshot past = Snapshot.empty.replay (Snapshot.stampedFrom 0 (taken past))) ∧
      payloads history <+: payloads (s.run receipts attempts)) ∧
    payloads (s.run receipts attempts) =
      (attempts.take (requests (s.run receipts attempts))).flatMap Connection.payloads ∧
    (∀ (i : Nat) c, attempts[i]? = some c → Frame.done ∈ c.frames →
      requests (s.run receipts attempts) ≤ i + 1) ∧
    0 < requests (s.run receipts attempts) ∧
    (∀ (i : Nat) c, attempts[i]? = some c → i < requests (s.run receipts attempts) →
      (i + 1 < requests (s.run receipts attempts) ↔
        Frame.done ∉ c.frames ∧ s.Allows (attempts.take (i + 1)))) ∧
    (∀ others, others.map Connection.undivided = attempts.map Connection.undivided →
      payloads (s.run receipts others) = payloads (s.run receipts attempts) ∧
        snapshot (s.run receipts others) = snapshot (s.run receipts attempts)) ∧
    (∀ before after bytes rest ending, ending ≠ .finished →
      ((Decoder.start.push bytes).1.push rest).2 = [] →
      payloads (s.run receipts (before ++ .opened ⟨[bytes ++ rest], ending⟩ :: after)) =
        payloads (s.run receipts (before ++ .opened ⟨[bytes], ending⟩ :: after))) ∧
    (∀ before after bytes,
      payloads (s.run receipts (before ++ .opened ⟨[bytes ++ [0x0A, 0x0A]], .finished⟩ :: after)) =
        payloads (s.run receipts (before ++ .opened ⟨[bytes], .finished⟩ :: after))) := by
  refine ⟨?_, s.payloads_run receipts attempts, ?_, s.requests_run_pos receipts attempts,
    fun i c => s.next_request_iff receipts, ?_, ?_, ?_⟩
  · intro history possible
    exact ⟨fun past started => snapshot_history possible started, history_payloads possible⟩
  · intro i c reached ended
    exact s.requests_run_le receipts reached ended
  · intro others same
    apply s.run_congr receipts
    intro idle
    rw [Connection.map_outcome_undivided, same, ← Connection.map_outcome_undivided]
  · intro before after bytes rest ending cut incomplete
    apply (s.run_congr receipts _).1
    intro idle
    simp only [List.map_append, List.map_cons, Connection.outcome_incomplete idle cut incomplete]
  · intro before after bytes
    apply (s.run_congr receipts _).1
    intro idle
    simp only [List.map_append, List.map_cons, Connection.outcome_flushed]

end Session

end RemoteSurface
