import RemoteSurface.Url.Parse
import RemoteSurface.Settings
/-!
The origin and its two endpoints: one to stream a session from, one to send events to.
-/
namespace RemoteSurface

/-- An origin: the URLs of its endpoints, and how long it may take to answer. -/
structure Origin where
  streamEndpoint : Url
  eventUrl : Url
  requestTimeoutSeconds : Nat
deriving DecidableEq

/-- Why a base URL makes no origin. -/
structure OriginFault where
  baseUrl : String
  reason : UrlFault
deriving DecidableEq

def OriginFault.message (f : OriginFault) : String :=
  "invalid origin base URL '" ++ f.baseUrl ++ "': " ++ f.reason.message

namespace Origin

/-- A base URL without slashes at its end. -/
def trimBase (s : List Char) : List Char := (s.reverse.dropWhile fun c => c == '/').reverse

/-- The endpoint of a path under a base URL. -/
def endpoint (baseUrl path : String) : Except OriginFault Url :=
  match Url.parse (String.ofList (trimBase baseUrl.toList) ++ "/" ++ path) with
  | .ok url => .ok url
  | .error reason => .error ⟨baseUrl, reason⟩

def ofSettings (s : Settings) : Except OriginFault Origin :=
  (endpoint s.origin.baseUrl "a2ui/stream").bind fun stream =>
    (endpoint s.origin.baseUrl "a2ui/event").map fun event =>
      ⟨stream, event, s.stream.requestTimeoutSeconds⟩

/-- Where a session is streamed from. -/
def streamUrl (o : Origin) (sessionId : String) : Url :=
  o.streamEndpoint.withPair "sessionId" sessionId

end Origin

end RemoteSurface
