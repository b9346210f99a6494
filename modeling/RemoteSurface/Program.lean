import RemoteSurface.Arguments
import RemoteSurface.Settings.Load
import RemoteSurface.Origin
import RemoteSurface.SessionId
import RemoteSurface.Session
import RemoteSurface.Action.Dispatch
/-!
The program: what its arguments and settings ask for, what it prints, and how it exits.
-/
namespace RemoteSurface

namespace Program

def name : String := "a2ui-runtime"

def version : String := "0.3.0"

/-- The variable that may give a session id. -/
def sessionVariable : String := "A2UI_SESSION_ID"

/-- The variable that may name a file for the log. -/
def logVariable : String := "A2UI_LOG"

/-- Where the settings are, below the directory for settings. -/
def settingsPath : String := name ++ "/config.toml"

/-- Why there is nothing to do. -/
inductive Stop where
  | usage (fault : UsageFault)
  | settings (fault : LoadFailure)
  | origin (fault : OriginFault)
deriving DecidableEq

/-- What is to do. -/
inductive Task where
  | watch (origin : Origin) (session : Session)
  | send (origin : Origin) (sessionId : String) (action : Action)

def actionOf (d : DispatchArguments) : Action :=
  { name := d.name
    surfaceId := some d.surfaceId
    sourceComponentId := d.source
    context := Table.ofList (d.context.map fun p => (p.1, Value.text p.2)) }

/-- What a command is to do with settings. A session id that is not given is taken from the
environment, and if there is none the fresh one is used. -/
def taskOf (command : Command) (settings : Settings) (origin : Origin)
    (environment : Option String) (fresh : String) : Task :=
  match command with
  | .watch given =>
    .watch origin ⟨(SessionSource.pick given environment).id fresh, settings.stream⟩
  | .dispatch given =>
    .send origin ((SessionSource.pick given.sessionId environment).id fresh) (actionOf given)

/-- What arguments ask for, given the content of the settings file that they name. -/
def task (a : Arguments) (file : SettingsFile) (environment : Option String) (fresh : String) :
    Except Stop Task :=
  match Settings.load file a.baseUrl with
  | .error fault => .error (.settings fault)
  | .ok settings =>
    match Origin.ofSettings settings with
    | .error fault => .error (.origin fault)
    | .ok origin => .ok (taskOf a.command settings origin environment fresh)

namespace Stop

def isHelp (s : Stop) : Bool := s == usage .help

/-- How the program exits. Help and the version are no errors. -/
def exitCode : Stop → Nat
  | usage .help => 0
  | usage .version => 0
  | usage _ => 2
  | _ => 1

/-- The line that reports an error about the settings at a path, or about the origin. -/
def errorLine? (path : String) : Stop → Option String
  | settings (.invalid fault) => some ("Error: " ++ LoadFailure.validationMessage fault)
  | settings .unreadable => some ("Error: Failed to read config file '" ++ path ++ "'")
  | settings .malformed => some ("Error: Failed to parse config file '" ++ path ++ "'")
  | origin _ => some "Error: failed to set up origin client"
  | usage _ => none

end Stop

/-- The line that tells the verdict on an action. -/
def verdictLine (r : ActionResult) : String := r.toJson.render

/-- How the program exits after the verdict on an action. -/
def verdictExit (r : ActionResult) : Nat := if r.accepted then 0 else 1

/-- The lines that a watched session prints: one for every snapshot it publishes. -/
def watchLines (ms : List Moment) : List String :=
  (ms.filterMap Moment.published?).map Snapshot.summary

/-- The line that names the program and its version. -/
def versionLine : String := name ++ " " ++ version

def usageLines : List String :=
  ["Headless client: stream surfaces and submit actions",
    "",
    "Usage: " ++ name ++ " [--config <PATH>] [--base-url <URL>] <COMMAND>",
    "",
    "Commands:",
    "  watch [--session-id <ID>]",
    "      Stream a session and print a line per state change",
    "  dispatch [--session-id <ID>] --surface-id <SURFACE> --name <NAME>",
    "      [--source <COMPONENT>] [--context <KEY=VALUE>]...",
    "      Submit one user action and print the origin's verdict",
    "  help [COMMAND]"]

end Program

end RemoteSurface
