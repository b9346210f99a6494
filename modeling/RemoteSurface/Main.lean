import Std.Async.DNS
import Std.Async.TCP
import Std.Async.Timer
import RemoteSurface.Http.Transfer
import RemoteSurface.Program
/-!
The command line: connections, files, and lines on the standard streams. What is sent, what is
printed, and when a session connects again is decided by the library.
-/
namespace RemoteSurface

namespace Main

open Std.Async

abbrev Socket := TCP.Socket.Client

def addressesOf (host : Host) : IO (Array Std.Net.IPAddr) := do
  let text := String.ofList (match host with
    | .eight groups => Address.renderEight groups
    | other => other.render)
  (DNS.getAddrInfo text "").block

def socketAddress (port : UInt16) : Std.Net.IPAddr → Std.Net.SocketAddress
  | .v4 a => .v4 ⟨a, port⟩
  | .v6 a => .v6 ⟨a, port⟩

/-- Connects to the first address that accepts. -/
partial def connectAny (port : UInt16) : List Std.Net.IPAddr → IO (Option Socket)
  | [] => return none
  | address :: rest => do
    try
      let socket ← TCP.Socket.Client.mk
      (socket.connect (socketAddress port address)).block
      return some socket
    catch _ => connectAny port rest

/-- Connects to the host of a URL, over a plain connection only. -/
def connect (u : Url) : IO (Option Socket) := do
  match u.authority with
  | none => return none
  | some a =>
    if u.scheme != "http" then return none
    try
      let port := a.port.getD ((defaultPort? u.scheme).getD 80)
      connectAny (UInt16.ofNat port) (← addressesOf a.host).toList
    catch _ => return none

/-- What receiving gives: bytes, the end of the connection, a failure, or nothing in time. -/
inductive Received where
  | bytes (content : List UInt8)
  | closed
  | failed
  | late

def receive (socket : Socket) (timeoutMs : Nat) : IO Received := do
  try
    (do
      let clock ← Selector.sleep (Std.Time.Millisecond.Offset.ofNat timeoutMs)
      Selectable.one #[
        .case (socket.recvSelector 65536) fun received => pure (match received with
          | some content => Received.bytes content.toList
          | none => Received.closed),
        .case clock fun _ => pure Received.late] : Async Received).block
  catch _ => return .failed

/-- A response whose head has come: the head, how its content is delimited, and the bytes behind
the head. -/
structure Response where
  socket : Socket
  head : Http.Head
  transfer : Http.Transfer
  rest : List UInt8

partial def receiveHead (socket : Socket) (timeoutMs : Nat) (before : List UInt8) :
    IO (Except Reply Response) := do
  match Http.cutHead? before with
  | some (bytes, rest) =>
    match Http.Head.parse? bytes with
    | some head => return .ok ⟨socket, head, Http.Transfer.ofHead head, rest⟩
    | none => return .error .unreachable
  | none =>
    match ← receive socket timeoutMs with
    | .bytes more => receiveHead socket timeoutMs (before ++ more)
    | .late => return .error .silent
    | _ => return .error .unreachable

/-- Sends a request, and receives the head of the response. -/
def exchange (request : Http.Request) (timeoutMs : Nat) : IO (Except Reply Response) := do
  match ← connect request.url with
  | none => return .error .unreachable
  | some socket =>
    try
      (socket.send (ByteArray.mk request.bytes.toArray)).block
      receiveHead socket timeoutMs []
    catch _ => return .error .unreachable

/-- Receives the next piece of content, or how the content ends. -/
def receiveContent (r : Response) (timeoutMs : Nat) :
    IO (Response × List UInt8 × Option Ending) := do
  if r.transfer == .complete then return (r, [], some .finished)
  else if !r.rest.isEmpty then
    let (transfer, content) := r.transfer.feed r.rest
    return ({ r with transfer := transfer, rest := [] }, content, none)
  else
    match ← receive r.socket timeoutMs with
    | .bytes more => return ({ r with rest := more }, [], none)
    | .closed => return (r, [], some (if r.transfer.endsWell then .finished else .broken))
    | .failed => return (r, [], some .broken)
    | .late => return (r, [], some .silent)

partial def receiveAll (r : Response) (timeoutMs : Nat) (back : List (List UInt8)) : IO Body := do
  let (r, content, ending) ← receiveContent r timeoutMs
  match ending with
  | some e => return ⟨back.reverse, e⟩
  | none => receiveAll r timeoutMs (content :: back)

/-- A request that posts a JSON value. -/
def post (url : Url) (content : Json) : Http.Request :=
  { method := "POST"
    url := url
    headers := [("content-type", "application/json")]
    content := Http.bytesOf content.render }

/-- Posts a JSON value; gives the reply with its whole content. -/
def reply (url : Url) (content : Json) (timeoutMs : Nat) : IO Reply := do
  match ← exchange (post url content) timeoutMs with
  | .error r => return r
  | .ok response =>
    let body ← receiveAll response timeoutMs []
    return .answered response.head.status (response.head.header? "content-type") body

/-- Shows the moments of a session as they come: published snapshots are printed, and reports are
sent. -/
def tell (origin : Origin) (settings : StreamSettings) (ms : List Moment) : IO Unit := do
  let out ← IO.getStdout
  for m in ms do
    match m with
    | .refused _ report =>
      discard (reply origin.eventUrl report.toJson (settings.reportTimeoutSeconds * 1000))
    | _ =>
      for line in Program.watchLines [m] do
        out.putStrLn line
        out.flush

/-- Takes a stream up to its end. -/
partial def stream (origin : Origin) (settings : StreamSettings) (w : Worker) (d : Decoder)
    (r : Response) : IO (Worker × Option StreamFailure) := do
  let (r, content, ending) ← receiveContent r (settings.idleTimeoutSeconds * 1000)
  match ending with
  | some e =>
    let (w, ms, lost) := w.takeEnding d e
    tell origin settings ms
    return (w, lost)
  | none =>
    let (d, frames) := d.push content
    let (w, ms, isDone) := w.takeFrames frames
    tell origin settings ms
    if isDone then return (w, none) else stream origin settings w d r

def openStream (origin : Origin) (sessionId : String) : IO (Except StreamFailure Response) := do
  let url := origin.streamUrl sessionId
  let request : Http.Request :=
    { method := "GET", url := url, headers := [("accept", Reply.eventStream)] }
  let seconds := origin.requestTimeoutSeconds
  match ← exchange request (seconds * 1000) with
  | .error r => return (r.opening url.render seconds).bind fun _ => .error .broken
  | .ok response =>
    let head := Reply.answered response.head.status (response.head.header? "content-type") {}
    return (head.opening url.render seconds).map fun _ => response

/-- Sleeps, also for longer than the clock can be asked for at once. -/
def sleep (ms : Nat) : IO Unit := do
  let most := UInt32.size - 1
  for _ in [0 : ms / most] do
    IO.sleep (UInt32.ofNat most)
  IO.sleep (UInt32.ofNat (ms % most))

/-- Runs a session until it is over. -/
partial def watch (origin : Origin) (session : Session) (w : Worker) : IO Unit := do
  let (w, lost) ← match ← openStream origin session.id with
    | .error cause => pure (w, some cause)
    | .ok response =>
      stream origin session.settings { w with backoff := w.backoff.reset } .start response
  if lost.isNone then return
  match w.backoff.next with
  | (_, none) => return
  | (backoff, some delay) =>
    sleep delay
    watch origin session { w with backoff := backoff }

/-- Sends an action; gives the exit code. -/
def send (origin : Origin) (sessionId : String) (a : Action) : IO UInt32 := do
  let answered ← if a.isValid then
      reply origin.eventUrl (a.envelope (some sessionId)) (origin.requestTimeoutSeconds * 1000)
    else pure .unreachable
  let result := a.dispatch answered
  IO.println (Program.verdictLine result)
  return UInt32.ofNat (Program.verdictExit result)

/-- The directory for settings. -/
def settingsDirectory : IO String := do
  match ← IO.getEnv "XDG_CONFIG_HOME" with
  | some path => if path.startsWith "/" then return path
  | none => pure ()
  match ← IO.getEnv "HOME" with
  | some home => return home ++ "/.config"
  | none => return "."

/-- Reads the settings file at a path. -/
def settingsFile (path : String) : IO SettingsFile := do
  try
    return .bytes (← IO.FS.readBinFile path).toList
  catch
    | .noFileOrDirectory .. => return .missing
    | _ => return .unreadable

def stop (path : String) (s : Program.Stop) : IO UInt32 := do
  let out ← if s.isHelp then IO.getStdout else IO.getStderr
  match s with
  | .usage .version => IO.println Program.versionLine
  | .usage _ => Program.usageLines.forM out.putStrLn
  | _ => (s.errorLine? path).forM out.putStrLn
  return UInt32.ofNat s.exitCode

/-- Makes the file for the log, if one is named. -/
def openLog : IO Unit := do
  match ← IO.getEnv Program.logVariable with
  | none => return
  | some path =>
    if Text.isBlank path then return
    let unique := path ++ "." ++ toString (← IO.monoMsNow)
    try
      discard (IO.FS.Handle.mk unique .writeNew)
    catch _ => (← IO.getStderr).putStrLn ("Warning: Failed to create log file: " ++ unique)

/-- Does what arguments ask for. -/
def perform (a : Arguments) : IO UInt32 := do
  openLog
  let path := a.config.getD ((← settingsDirectory) ++ "/" ++ Program.settingsPath)
  let file ← settingsFile path
  let environment ← IO.getEnv Program.sessionVariable
  let fresh := freshSessionId (← IO.getRandomBytes 16).toList
  match Program.task a file environment fresh with
  | .error s => stop path s
  | .ok (.watch origin session) =>
    watch origin session (session.start [])
    return 0
  | .ok (.send origin sessionId action) => send origin sessionId action

end Main

end RemoteSurface

def main (args : List String) : IO UInt32 := do
  match RemoteSurface.Arguments.parse args with
  | .error fault => RemoteSurface.Main.stop "" (.usage fault)
  | .ok a => RemoteSurface.Main.perform a
