import RemoteSurface.Session
import RemoteSurface.Proofs.DecoderChunks
/-!
What an attempt to stream comes to: whether it opens, which payloads it delivers before the stream
is over, and how it fails. Neither the cuts between the chunks of a body nor the bytes of an event
that is never completed are part of that.
-/
namespace RemoteSurface

namespace Frame

/-- The payloads that come before the word that the stream is over. -/
def untilDone : List Frame → List String
  | [] => []
  | .done :: _ => []
  | .data payload :: rest => payload :: untilDone rest

/-- Whether the word comes that the stream is over. -/
def isOver : List Frame → Bool
  | [] => false
  | .done :: _ => true
  | .data _ :: rest => isOver rest

theorem isOver_iff (fs : List Frame) : isOver fs = true ↔ done ∈ fs := by
  induction fs with
  | nil => simp [isOver]
  | cons f fs ih => cases f <;> simp [isOver, ih]

theorem isOver_append (fs gs : List Frame) : isOver (fs ++ gs) = (isOver fs || isOver gs) := by
  induction fs with
  | nil => rfl
  | cons f fs ih =>
    cases f with
    | data payload => exact ih
    | done => rfl

theorem untilDone_append (fs gs : List Frame) :
    untilDone (fs ++ gs) = untilDone fs ++ if isOver fs then [] else untilDone gs := by
  induction fs with
  | nil => rfl
  | cons f fs ih =>
    cases f with
    | data payload => exact congrArg (List.cons payload) ih
    | done => rfl

end Frame

/-- The frames that a decoder still gives when the bytes end: a complete body leaves its last
event, and any other body leaves nothing. -/
def Decoder.lastFrames (d : Decoder) : Ending → List Frame
  | .finished => d.finish.2
  | .broken => []
  | .silent => []

/-- The frames that a decoder gives for some bytes and their end. -/
def Decoder.framesOf (d : Decoder) (ending : Ending) (bytes : List UInt8) : List Frame :=
  (d.push bytes).2 ++ (d.push bytes).1.lastFrames ending

theorem Decoder.framesOf_append (d : Decoder) (ending : Ending) (bytes more : List UInt8) :
    d.framesOf ending (bytes ++ more) =
      (d.push bytes).2 ++ (d.push bytes).1.framesOf ending more := by
  rw [framesOf, push_append, List.append_assoc]
  rfl

/-- Why a stream is lost when a body ends as given before the stream is over. -/
def Ending.failure (idleTimeoutSeconds : Nat) : Ending → StreamFailure
  | .finished => .ended
  | .broken => .broken
  | .silent => .timeout "next event" idleTimeoutSeconds

/-- The frames of a body, read by a decoder of its own. -/
def Body.frames (b : Body) : List Frame := Decoder.start.framesOf b.ending b.chunks.flatten

/-- What an attempt comes to: the payloads that it delivers if it opens, and its failure, unless
the stream is over. -/
structure Outcome where
  delivered : Option (List String)
  failure : Option StreamFailure

namespace Connection

/-- The frames of an attempt; one that fails to open has none. -/
def frames : Connection → List Frame
  | .failed _ => []
  | .opened body => body.frames

/-- The payloads that an attempt delivers. -/
def payloads (c : Connection) : List String := Frame.untilDone c.frames

/-- The attempt with all of its bytes in one chunk. -/
def undivided : Connection → Connection
  | .failed cause => .failed cause
  | .opened body => .opened { body with chunks := [body.chunks.flatten] }

/-- What an attempt comes to. -/
def outcome (idleTimeoutSeconds : Nat) : Connection → Outcome
  | .failed cause => ⟨none, some cause⟩
  | .opened body =>
    ⟨some (Frame.untilDone body.frames),
      if Frame.isOver body.frames then none else some (body.ending.failure idleTimeoutSeconds)⟩

theorem outcome_delivered (idle : Nat) (c : Connection) :
    (c.outcome idle).delivered.getD [] = c.payloads := by
  cases c with
  | failed cause => rfl
  | opened body => rfl

theorem outcome_failure_iff (idle : Nat) (c : Connection) :
    (c.outcome idle).failure = none ↔ Frame.done ∈ c.frames := by
  cases c with
  | failed cause => simp [outcome, frames]
  | opened body =>
    rw [frames, ← Frame.isOver_iff]
    simp [outcome]

theorem outcome_undivided (idle : Nat) (c : Connection) :
    c.undivided.outcome idle = c.outcome idle := by
  cases c with
  | failed cause => rfl
  | opened body =>
    have whole : Body.frames { body with chunks := [body.chunks.flatten] } = body.frames := by
      rw [Body.frames, List.flatten_singleton]
      rfl
    simp only [undivided, outcome]
    rw [whole]

theorem map_outcome_undivided (idle : Nat) (cs : List Connection) :
    cs.map (outcome idle) = (cs.map undivided).map (outcome idle) := by
  rw [List.map_map]
  exact List.map_congr_left fun c _ => (c.outcome_undivided idle).symm

/-- A complete body delivers what it would deliver with an empty line after it. -/
theorem outcome_flushed (idle : Nat) (bytes : List UInt8) :
    (opened ⟨[bytes ++ [0x0A, 0x0A]], .finished⟩).outcome idle =
      (opened ⟨[bytes], .finished⟩).outcome idle := by
  have nothingLeft : Decoder.start.finish.2 = [] := rfl
  have same :
      Body.frames ⟨[bytes ++ [0x0A, 0x0A]], .finished⟩ = Body.frames ⟨[bytes], .finished⟩ := by
    simp only [Body.frames, List.flatten_singleton, Decoder.framesOf, Decoder.push_append,
      Decoder.lastFrames, ← Decoder.finish_eq_push, Decoder.finish_fst, nothingLeft,
      List.append_nil]
  simp only [outcome, same]

/-- Bytes that complete no event change nothing where a body is not complete. -/
theorem outcome_incomplete (idle : Nat) {bytes rest : List UInt8} {ending : Ending}
    (cut : ending ≠ .finished) (incomplete : ((Decoder.start.push bytes).1.push rest).2 = []) :
    (opened ⟨[bytes ++ rest], ending⟩).outcome idle = (opened ⟨[bytes], ending⟩).outcome idle := by
  have nothingLast : ∀ d : Decoder, d.lastFrames ending = [] := by
    intro d
    cases ending with
    | finished => exact absurd rfl cut
    | broken => rfl
    | silent => rfl
  have same : Body.frames ⟨[bytes ++ rest], ending⟩ = Body.frames ⟨[bytes], ending⟩ := by
    simp only [Body.frames, List.flatten_singleton, Decoder.framesOf, Decoder.push_append,
      incomplete, nothingLast, List.append_nil]
  simp only [outcome, same]

end Connection

end RemoteSurface
