import RemoteSurface.Origin.Reply
import RemoteSurface.Settings
import RemoteSurface.Snapshot
import RemoteSurface.Stream.Backoff
import RemoteSurface.Stream.Frames
import RemoteSurface.Stream.Report
/-!
Sessions. A session connects, takes messages while the stream lasts, and connects again after a
delay when it fails, until the origin says that it is done, the limit of attempts is spent, or
somebody cancels it. A run is told as the list of its moments; where a run waits, it may be
cancelled.
-/
namespace RemoteSurface

/-- How one attempt to stream fares: it fails to open, or it opens and delivers a body. -/
inductive Connection where
  | failed (cause : StreamFailure)
  | opened (body : Body)
deriving DecidableEq

/-- How an attempt fares when the origin replies as given. -/
def Connection.ofReply (url : String) (timeoutSeconds : Nat) (reply : Reply) : Connection :=
  match reply.opening url timeoutSeconds with
  | .ok body => .opened body
  | .error cause => .failed cause

/-- One moment of a session: a phase begins, the session waits for something outside of it, a
request for the stream goes out, a payload is applied and perhaps a snapshot published, a payload is
refused, a report about it has been sent, the stream is lost, or a delay is over. -/
inductive Moment where
  | entered (phase : Phase)
  | waiting
  | requested
  | applied (payload : String) (published : Option Snapshot)
  | refused (payload : String) (report : Report)
  | reported (report : Report) (received : Bool)
  | lost (cause : StreamFailure)
  | slept (ms : Nat)

/-- A session under way: what it has built so far, the next stamp, its backoff, and how the origin
will receive its next reports; a report beyond those is not received. -/
structure Worker where
  sessionId : String
  idleTimeoutSeconds : Nat
  backoff : Backoff
  receipts : List Bool := []
  snapshot : Snapshot := .empty
  stamp : Nat := 0

namespace Worker

/-- Applies a message, and publishes the snapshot if it holds other surfaces than before. -/
def apply (w : Worker) (payload : String) (m : ValidMessage) : Worker × List Moment :=
  let next := w.snapshot.reduce w.stamp m
  if next.sharesWith w.snapshot then
    ({ w with stamp := w.stamp + 1 }, [.applied payload none])
  else
    ({ w with snapshot := next, stamp := w.stamp + 1 }, [.applied payload (some next)])

/-- Refuses a payload, and reports that. -/
def refuse (w : Worker) (payload : String) (report : Report) : Worker × List Moment :=
  ({ w with receipts := w.receipts.tail },
    [.refused payload report, .waiting, .reported report (w.receipts.headD false), .waiting])

/-- Takes a payload: it is applied if it is a well-formed message, and refused if not. -/
def handle (w : Worker) (payload : String) : Worker × List Moment :=
  match Message.decode payload with
  | .error failure => w.refuse payload (.ofUndecoded w.sessionId payload failure)
  | .ok m =>
    match ValidMessage.ofMessage m with
    | .ok valid => w.apply payload valid
    | .error violations => w.refuse payload (.ofInvalid w.sessionId m violations)

/-- Takes frames up to the one that ends the stream, and says whether it came. -/
def takeFrames (w : Worker) : List Frame → Worker × List Moment × Bool
  | [] => (w, [], false)
  | .done :: _ => (w, [], true)
  | .data payload :: rest =>
    let (w, now) := w.handle payload
    let (w, later, isDone) := takeFrames w rest
    (w, now ++ later, isDone)

/-- Takes the end of a body. A complete body may leave a last event; a body that is not complete
leaves nothing. -/
def takeEnding (w : Worker) (d : Decoder) : Ending → Worker × List Moment × Option StreamFailure
  | .finished =>
    let (w, now, isDone) := w.takeFrames d.finish.2
    (w, .waiting :: now, if isDone then none else some .ended)
  | .broken => (w, [.waiting], some .broken)
  | .silent => (w, [.waiting], some (.timeout "next event" w.idleTimeoutSeconds))

/-- Takes the chunks of a body and its end. The stream is over, or it was lost. -/
def takeChunks (w : Worker) (d : Decoder) (ending : Ending) :
    List (List UInt8) → Worker × List Moment × Option StreamFailure
  | [] => w.takeEnding d ending
  | chunk :: rest =>
    let (d, frames) := d.push chunk
    let (w, now, isDone) := w.takeFrames frames
    if isDone then (w, .waiting :: now, none)
    else
      let (w, later, lost) := takeChunks w d ending rest
      (w, .waiting :: now ++ later, lost)

/-- Makes one attempt to stream. An attempt that opens forgets the failed ones before it, and reads
with a decoder of its own. -/
def connect (w : Worker) : Connection → Worker × List Moment × Option StreamFailure
  | .failed cause => (w, [], some cause)
  | .opened body =>
    let (w, now, lost) :=
      takeChunks { w with backoff := w.backoff.reset } .start body.ending body.chunks
    (w, .entered .streaming :: now, lost)

/-- The moments of an attempt up to the reply of the origin. -/
def attempt : List Moment := [.entered .connecting, .waiting, .requested, .waiting]

/-- Runs a session against attempts that fare as given. After the last of them the origin does not
reply any more. -/
def run (w : Worker) : List Connection → List Moment
  | [] => attempt
  | c :: rest =>
    match w.connect c with
    | (_, now, none) => attempt ++ now ++ [.entered .closed]
    | (w, now, some cause) =>
      attempt ++ now ++ .lost cause :: .entered .reconnecting ::
        match w.backoff.next with
        | (_, none) => [.entered .closed]
        | (backoff, some delay) =>
          .waiting :: .slept delay :: run { w with backoff := backoff } rest

end Worker

/-- A session: its id, and how its stream is kept up. -/
structure Session where
  id : String
  settings : StreamSettings

namespace Session

/-- The session before its first attempt, with an origin that receives reports as given. -/
def start (s : Session) (receipts : List Bool) : Worker :=
  { sessionId := s.id
    idleTimeoutSeconds := s.settings.idleTimeoutSeconds
    backoff := s.settings.backoff
    receipts := receipts }

/-- The moments of a session that nobody cancels. -/
def run (s : Session) (receipts : List Bool) (attempts : List Connection) : List Moment :=
  .entered .idle :: (s.start receipts).run attempts

end Session

namespace Moment

/-- The moments of a session that is cancelled while it waits; `left` waits pass before that. A
session that is over, or does not wait so often, runs as it would. -/
def cancelled : (left : Nat) → List Moment → List Moment
  | _, [] => []
  | 0, .waiting :: _ => [.waiting, .entered .closed]
  | left + 1, .waiting :: rest => .waiting :: cancelled left rest
  | left, m :: rest => m :: cancelled left rest

/-- The phase that begins at a moment. -/
def phase? : Moment → Option Phase
  | entered phase => some phase
  | _ => none

/-- The snapshot that is published at a moment. -/
def published? : Moment → Option Snapshot
  | applied _ published => published
  | _ => none

/-- The payload that is taken at a moment. -/
def payload? : Moment → Option String
  | applied payload _ => some payload
  | refused payload _ => some payload
  | _ => none

/-- The delay that is over at a moment. -/
def delay? : Moment → Option Nat
  | slept ms => some ms
  | _ => none

/-- Whether a request for the stream goes out at a moment. -/
def isRequest : Moment → Bool
  | requested => true
  | _ => false

/-- The phases of a run, in order. -/
def phases (ms : List Moment) : List Phase := ms.filterMap phase?

/-- The phase after some moments. -/
def currentPhase (ms : List Moment) : Phase := (phases ms).getLastD .idle

/-- The snapshot that readers see after some moments: the last one published. -/
def snapshot (ms : List Moment) : Snapshot := (ms.filterMap published?).getLastD .empty

def isOver (ms : List Moment) : Bool := (currentPhase ms).isClosed

end Moment

end RemoteSurface
