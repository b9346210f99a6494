import RemoteSurface.Settings
import RemoteSurface.Toml.Document
import RemoteSurface.Text.Utf8
/-!
Loading settings from a file, with an optional base URL that takes the place of the file's. What
is loaded has been checked.
-/
namespace RemoteSurface

/-- What stands at the path of the settings file; a directory cannot be read. -/
inductive SettingsFile where
  | missing
  | unreadable
  | bytes (content : List UInt8)
deriving DecidableEq

/-- Why settings cannot be loaded. -/
inductive LoadFailure where
  | unreadable
  | malformed
  | invalid (fault : SettingsFault)
deriving DecidableEq

namespace LoadFailure

/-- The text of a failure about settings that are refused. -/
def validationMessage (fault : SettingsFault) : String :=
  "Config validation failed: " ++ fault.message

end LoadFailure

namespace Settings

/-- A list of field values in the order of the fields, as an object; values beyond the fields do
not count. -/
def named (fields : List String) : Json → Json
  | .array items => .object (fields.zip items)
  | v => v

def ofDocument (members : Members Json) : Json.Reading Settings :=
  let name := fun k v =>
    if k = "origin" then named OriginSettings.fieldNames v
    else if k = "stream" then named StreamSettings.fieldNames v
    else v
  Settings.read (.object (members.map fun m => (m.1, name m.1 m.2)))

/-- Settings without a fault. -/
def checked (s : Settings) : Except LoadFailure Settings :=
  match s.fault? with
  | none => .ok s
  | some fault => .error (.invalid fault)

/-- The settings in the content of a file. -/
def ofContent (content : List UInt8) : Except LoadFailure Settings :=
  match Text.decode? content with
  | none => .error .unreadable
  | some text =>
    match (Toml.parse? (String.ofList text)).map ofDocument with
    | some (.ok s) => s.checked
    | _ => .error .malformed

/-- The settings of a file; without a file, the defaults. -/
def ofFile : SettingsFile → Except LoadFailure Settings
  | .missing => .ok {}
  | .unreadable => .error .unreadable
  | .bytes content => ofContent content

/-- Loads settings. A base URL that is given takes the place of the file's, once the file has
been found right. -/
def load (file : SettingsFile) (baseUrl : Option String) : Except LoadFailure Settings :=
  (ofFile file).bind fun s =>
    match baseUrl with
    | none => .ok s
    | some url => checked { s with origin := { s.origin with baseUrl := url } }

end Settings

end RemoteSurface
