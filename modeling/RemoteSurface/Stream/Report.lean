import RemoteSurface.Message.Validation
/-!
Reports to the origin about messages that were refused.
-/
namespace RemoteSurface

/-- A report: the session, the surface the message was about if that is known, and what was wrong
with it. -/
structure Report where
  sessionId : String
  surfaceId : Option String
  violations : List String
deriving DecidableEq

namespace Report

/-- The kind of error that every report is about. -/
def errorType : String := "invalid_message"

def toJson (r : Report) : Json :=
  .object [
    ("error", .object [
      ("surfaceId", .ofText? r.surfaceId),
      ("type", .text errorType),
      ("violations", .array (r.violations.map .text))]),
    ("sessionId", .text r.sessionId)]

/-- The report about a payload that is no message. -/
def ofUndecoded (sessionId payload : String) (failure : DecodeFailure) : Report :=
  ⟨sessionId, Message.surfaceHint? payload, ["malformed message: " ++ failure.message]⟩

/-- The report about a message that is not well formed. -/
def ofInvalid (sessionId : String) (m : Message) (violations : List Violation) : Report :=
  ⟨sessionId, m.surfaceId?, violations.map Violation.message⟩

end Report

end RemoteSurface
