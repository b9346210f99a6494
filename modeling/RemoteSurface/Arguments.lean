import RemoteSurface.Text.Blank
import RemoteSurface.Text.Split
/-!
Arguments of the command line. The program has two commands, each with options of its own; two
options may stand before a command or among its own. An option takes one value, which follows it
or is attached by an equals sign, and the value is examined when the next known option comes, or at
the end.
-/
namespace RemoteSurface

/-- An action to send, as the command line gives it. -/
structure DispatchArguments where
  sessionId : Option String
  surfaceId : String
  name : String
  source : Option String
  context : List (String × String)
deriving DecidableEq

/-- What to do. -/
inductive Command where
  | watch (sessionId : Option String)
  | dispatch (given : DispatchArguments)
deriving DecidableEq

/-- A command, and what goes for every command. -/
structure Arguments where
  config : Option String
  baseUrl : Option String
  command : Command
deriving DecidableEq

/-- Why there are no arguments to work with: help or the version was asked for, or something is
wrong. -/
inductive UsageFault where
  | nothing
  | help
  | version
  | unknownArgument
  | unknownCommand
  | missingCommand
  | missingOption
  | missingValue
  | extraValue
  | repeated
  | badPair
deriving DecidableEq

namespace Arguments

/-- The options. -/
inductive Opt where
  | config
  | baseUrl
  | sessionId
  | surfaceId
  | name
  | source
  | context
deriving DecidableEq

/-- Where an argument stands: before the command, or after one of them. -/
inductive Level where
  | program
  | watch
  | dispatch
deriving DecidableEq

namespace Level

def option? (level : Level) (long : String) : Option Opt :=
  match long with
  | "config" => some .config
  | "base-url" => some .baseUrl
  | "session-id" => if level = .program then none else some .sessionId
  | "surface-id" => if level = .dispatch then some .surfaceId else none
  | "name" => if level = .dispatch then some .name else none
  | "source" => if level = .dispatch then some .source else none
  | "context" => if level = .dispatch then some .context else none
  | _ => none

/-- The request that a long flag makes. -/
def flag? (level : Level) (long : String) : Option UsageFault :=
  match long with
  | "help" => some .help
  | "version" => if level = .program then some .version else none
  | _ => none

/-- The request that a flag of one letter makes. -/
def letter? (level : Level) (letter : Char) : Option UsageFault :=
  match letter with
  | 'h' => some .help
  | 'V' => if level = .program then some .version else none
  | _ => none

/-- The level that a command opens. -/
def command? (level : Level) (word : String) : Option Level :=
  if level = .program then
    match word with
    | "watch" => some .watch
    | "dispatch" => some .dispatch
    | _ => none
  else none

def isCommand (level : Level) (word : String) : Bool :=
  (level.command? word).isSome || (level == .program && word == "help")

/-- What is wrong with a word that nothing asks for. -/
def strayWord (level : Level) : UsageFault :=
  if level = .program then .unknownCommand else .unknownArgument

end Level

/-- What a value is once it has been examined. -/
inductive Given where
  | text (value : String)
  | pair (key value : String)
deriving DecidableEq

/-- What has been read at a level: the values examined, and an option that waits for its value or
whose value waits to be examined. -/
structure Progress where
  values : List (Opt × Given) := []
  pending : Option (Opt × Option String) := none

/-- A key and a value around the first equals sign; the key is trimmed and not blank. -/
def pair? (s : String) : Option (String × String) :=
  match Text.cut? '=' s.toList with
  | none => none
  | some (key, value) =>
    let key := Text.trimChars key
    if key.isEmpty then none else some (String.ofList key, String.ofList value)

namespace Progress

/-- Takes the value of an option. Only context may be given more than once, and a path is not
empty. -/
def assign (opt : Opt) (value : String) (p : Progress) : Except UsageFault Progress :=
  match opt with
  | .context =>
    match pair? value with
    | some (k, v) => .ok { p with values := p.values ++ [(opt, .pair k v)] }
    | none => .error .badPair
  | _ =>
    if p.values.any fun v => v.1 == opt then .error .repeated
    else if opt = .config ∧ value = "" then .error .missingValue
    else .ok { p with values := p.values ++ [(opt, .text value)] }

/-- Examines what is pending. -/
def settle (p : Progress) : Except UsageFault Progress :=
  match p.pending with
  | none => .ok p
  | some (_, none) => .error .missingValue
  | some (opt, some value) => assign opt value { p with pending := none }

/-- An option whose value is to follow. -/
def await (opt : Opt) (p : Progress) : Except UsageFault Progress :=
  p.settle.map fun p => { p with pending := some (opt, none) }

def attach (opt : Opt) (value : String) (p : Progress) : Except UsageFault Progress :=
  p.settle.bind (assign opt value)

/-- A request, which counts only if nothing before it is wrong. -/
def request (fault : UsageFault) (p : Progress) : Except UsageFault Progress :=
  p.settle.bind fun _ => .error fault

def text? (opt : Opt) (p : Progress) : Option String :=
  p.values.findSome? fun v =>
    match v with
    | (o, .text s) => if o = opt then some s else none
    | _ => none

/-- The pairs of the context, in order. -/
def pairs (p : Progress) : List (String × String) :=
  p.values.filterMap fun v =>
    match v.2 with
    | .pair k s => some (k, s)
    | .text _ => none

end Progress

/-- An argument that begins with two dashes and goes on. -/
def readLong (level : Level) (body : List Char) (p : Progress) : Except UsageFault Progress :=
  let (name, value) := match Text.cut? '=' body with
    | some (name, value) => (String.ofList name, some (String.ofList value))
    | none => (String.ofList body, none)
  match level.option? name, level.flag? name, value with
  | some opt, _, none => p.await opt
  | some opt, _, some value => p.attach opt value
  | none, some fault, none => p.request fault
  | none, some _, some _ => .error .extraValue
  | none, none, _ => .error .unknownArgument

/-- An argument that begins with one dash and a letter. -/
def readLetter (level : Level) (letter : Char) (p : Progress) : Except UsageFault Progress :=
  match level.letter? letter with
  | some fault => p.request fault
  | none => .error .unknownArgument

/-- What is wrong with a word after two dashes that stand alone. -/
def afterDashes (level : Level) : List String → Option UsageFault
  | [] => none
  | word :: _ => some (if level.isCommand word then .unknownArgument else level.strayWord)

/-- What is asked for by the words after the command for help: they name a command at most. -/
def helpOn : List String → UsageFault
  | [] => .help
  | [word] => if Level.program.isCommand word then .help else .unknownCommand
  | _ => .unknownCommand

/-- A command, and the arguments after it. -/
abbrev Rest := Option (Level × List String)

/-- Reads arguments at a level, up to a command. -/
def read (level : Level) (p : Progress) : List String → Except UsageFault (Progress × Rest)
  | [] => .ok (p, none)
  | word :: rest =>
    let plain : Unit → Except UsageFault (Progress × Rest) := fun _ =>
      match p.pending with
      | some (opt, none) => read level { p with pending := some (opt, some word) } rest
      | _ =>
        match level.command? word with
        | some next => .ok (p, some (next, rest))
        | none =>
          if level.isCommand word then .error (helpOn rest) else .error level.strayWord
    match word.toList with
    | ['-', '-'] =>
      match afterDashes level rest with
      | none => .ok (p, none)
      | some fault => .error fault
    | '-' :: '-' :: body => (readLong level body p).bind fun p => read level p rest
    | '-' :: letter :: _ => (readLetter level letter p).bind fun p => read level p rest
    | _ => plain ()

/-- The command of a level whose arguments have been read. -/
def commandOf (level : Level) (p : Progress) : Except UsageFault Command :=
  match level with
  | .program => .error (if p.values.isEmpty then .nothing else .missingCommand)
  | .watch => .ok (.watch (p.text? .sessionId))
  | .dispatch =>
    match p.text? .surfaceId, p.text? .name with
    | some surfaceId, some name =>
      .ok (.dispatch
        ⟨p.text? .sessionId, surfaceId, name, p.text? .source, p.pairs⟩)
    | _, _ => .error .missingOption

/-- Reads the arguments of a level to their end. -/
def readAll (level : Level) (args : List String) : Except UsageFault (Progress × Command) :=
  (read level {} args).bind fun (p, _) =>
    p.settle.bind fun p => (commandOf level p).map fun command => (p, command)

/-- Reads arguments. What is wrong after the command comes first; of an option given before and
after the command, the value after it counts. -/
def parse (args : List String) : Except UsageFault Arguments :=
  (read .program {} args).bind fun (p, rest) =>
    match rest with
    | none => p.settle.bind fun p => (commandOf .program p).map fun c => ⟨none, none, c⟩
    | some (level, after) =>
      (readAll level after).bind fun (q, command) =>
        p.settle.map fun p =>
          { config := (q.text? .config).or (p.text? .config)
            baseUrl := (q.text? .baseUrl).or (p.text? .baseUrl)
            command := command }

end Arguments

end RemoteSurface
