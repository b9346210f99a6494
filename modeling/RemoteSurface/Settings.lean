import RemoteSurface.Json.Reading
import RemoteSurface.Text.Blank
import RemoteSurface.Stream.Backoff
/-!
Settings: where the origin is, how long to wait for it, and how to reconnect. Settings are checked
before they are used.
-/
namespace RemoteSurface

/-- Where the origin is. -/
structure OriginSettings where
  baseUrl : String := "http://127.0.0.1:8000"
deriving DecidableEq, Inhabited

/-- Waiting times, and the policy for reconnecting. Zero reconnect attempts stands for as many as
it takes. -/
structure StreamSettings where
  connectTimeoutSeconds : Nat := 5
  requestTimeoutSeconds : Nat := 30
  idleTimeoutSeconds : Nat := 120
  retryBackoffBaseMs : Nat := 250
  retryBackoffMaxMs : Nat := 10000
  maxReconnectAttempts : Nat := 0
  reportTimeoutSeconds : Nat := 5
deriving DecidableEq, Inhabited

/-- All settings. -/
structure Settings where
  origin : OriginSettings := {}
  stream : StreamSettings := {}
deriving DecidableEq, Inhabited

/-- Why settings are refused. -/
inductive SettingsFault where
  | scheme (baseUrl : String)
  | zeroTimeout (name : String)
  | zeroBackoff
  | backoffOrder (base max : Nat)
deriving DecidableEq

def SettingsFault.message : SettingsFault → String
  | .scheme url => "Origin base_url '" ++ url ++ "' must start with http:// or https://"
  | .zeroTimeout name => "stream." ++ name ++ " must be greater than zero"
  | .zeroBackoff => "stream.retry_backoff_base_ms must be greater than zero"
  | .backoffOrder base max =>
    "stream.retry_backoff_base_ms (" ++ toString base ++ ") exceeds retry_backoff_max_ms (" ++
      toString max ++ ")"

namespace OriginSettings

/-- The keys, in the order of the fields. -/
def fieldNames : List String := ["base_url"]

def setField (k : String) (v : Json) (o : OriginSettings) : Json.Reading OriginSettings :=
  match k with
  | "base_url" => (Json.readText v).map fun s => { o with baseUrl := s }
  | _ => .ok o

def read : Json → Json.Reading OriginSettings :=
  Json.readRecord "OriginConfig" fieldNames setField {}

/-- Whether a base URL, trimmed, is one of the web. -/
def isWeb (baseUrl : String) : Bool :=
  let trimmed := Text.trimChars baseUrl.toList
  "http://".toList.isPrefixOf trimmed || "https://".toList.isPrefixOf trimmed

end OriginSettings

namespace StreamSettings

/-- The keys, in the order of the fields. -/
def fieldNames : List String :=
  ["connect_timeout_seconds", "request_timeout_seconds", "idle_timeout_seconds",
    "retry_backoff_base_ms", "retry_backoff_max_ms", "max_reconnect_attempts",
    "report_timeout_seconds"]

/-- Reads a count of seconds or attempts. -/
def readShort : Json → Json.Reading Nat := Json.readBelow (Nat.pow 2 32) "u32"

def readLong : Json → Json.Reading Nat := Json.readBelow (Nat.pow 2 64) "u64"

def setField (k : String) (v : Json) (s : StreamSettings) : Json.Reading StreamSettings :=
  match k with
  | "connect_timeout_seconds" =>
    (readShort v).map fun n => { s with connectTimeoutSeconds := n }
  | "request_timeout_seconds" =>
    (readShort v).map fun n => { s with requestTimeoutSeconds := n }
  | "idle_timeout_seconds" => (readShort v).map fun n => { s with idleTimeoutSeconds := n }
  | "retry_backoff_base_ms" => (readLong v).map fun n => { s with retryBackoffBaseMs := n }
  | "retry_backoff_max_ms" => (readLong v).map fun n => { s with retryBackoffMaxMs := n }
  | "max_reconnect_attempts" => (readShort v).map fun n => { s with maxReconnectAttempts := n }
  | "report_timeout_seconds" => (readShort v).map fun n => { s with reportTimeoutSeconds := n }
  | _ => .ok s

def read : Json → Json.Reading StreamSettings :=
  Json.readRecord "StreamConfig" fieldNames setField {}

/-- How many reconnects in a row may fail; none for as many as it takes. -/
def reconnectLimit (s : StreamSettings) : Option Nat :=
  if 0 < s.maxReconnectAttempts then some s.maxReconnectAttempts else none

/-- The waiting times that must not be zero, in the order in which they are checked. -/
def timeouts (s : StreamSettings) : List (String × Nat) :=
  [("connect_timeout_seconds", s.connectTimeoutSeconds),
    ("request_timeout_seconds", s.requestTimeoutSeconds),
    ("idle_timeout_seconds", s.idleTimeoutSeconds),
    ("report_timeout_seconds", s.reportTimeoutSeconds)]

/-- The backoff of a session with these settings. -/
def backoff (s : StreamSettings) : Backoff :=
  { base := s.retryBackoffBaseMs, cap := s.retryBackoffMaxMs, limit := s.reconnectLimit }

end StreamSettings

namespace Settings

def setField (k : String) (v : Json) (s : Settings) : Json.Reading Settings :=
  match k with
  | "origin" => (OriginSettings.read v).map fun o => { s with origin := o }
  | "stream" => (StreamSettings.read v).map fun t => { s with stream := t }
  | _ => .ok s

def read : Json → Json.Reading Settings := Json.readRecord "Config" ["origin", "stream"] setField {}

/-- The first fault of settings: the scheme of the base URL, a waiting time of zero, a first delay
of zero, a first delay beyond the cap. -/
def fault? (s : Settings) : Option SettingsFault :=
  if !OriginSettings.isWeb s.origin.baseUrl then some (.scheme s.origin.baseUrl)
  else match s.stream.timeouts.find? fun t => t.2 == 0 with
    | some t => some (.zeroTimeout t.1)
    | none =>
      if s.stream.retryBackoffBaseMs = 0 then some .zeroBackoff
      else if s.stream.retryBackoffMaxMs < s.stream.retryBackoffBaseMs then
        some (.backoffOrder s.stream.retryBackoffBaseMs s.stream.retryBackoffMaxMs)
      else none

/-- Whether settings may be used. -/
def isValid (s : Settings) : Bool := s.fault?.isNone

end Settings

end RemoteSurface
