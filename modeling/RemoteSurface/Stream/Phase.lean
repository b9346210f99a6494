/-!
Phases of a session, and the ways a stream fails.
-/
namespace RemoteSurface

/-- Where a session stands. -/
inductive Phase where
  | idle
  | connecting
  | streaming
  | reconnecting
  | closed
deriving DecidableEq, Inhabited

namespace Phase

def name : Phase → String
  | idle => "idle"
  | connecting => "connecting"
  | streaming => "streaming"
  | reconnecting => "reconnecting"
  | closed => "closed"

def isClosed : Phase → Bool
  | closed => true
  | _ => false

end Phase

/-- Why a stream did not open or did not last. -/
inductive StreamFailure where
  | noSession
  | unreachable (url : String)
  | status (code : Nat)
  | contentType (given : String)
  | timeout (awaited : String) (seconds : Nat)
  | broken
  | ended
deriving DecidableEq

namespace StreamFailure

/-- The kind of a failure, as it is logged. -/
def kind : StreamFailure → String
  | noSession => "no_session"
  | unreachable _ => "connection_error"
  | status _ => "http_status"
  | contentType _ => "content_type"
  | timeout _ _ => "timeout"
  | broken => "read_error"
  | ended => "unexpected_eof"

def message : StreamFailure → String
  | noSession => "no session id available"
  | unreachable url => "connection to '" ++ url ++ "' failed"
  | status code => "stream request returned HTTP " ++ toString code
  | contentType given => "unexpected content type '" ++ given ++ "'"
  | timeout awaited seconds =>
    "timed out after " ++ toString seconds ++ "s waiting for " ++ awaited
  | broken => "stream read failed"
  | ended => "stream ended without [DONE]"

end StreamFailure

end RemoteSurface
