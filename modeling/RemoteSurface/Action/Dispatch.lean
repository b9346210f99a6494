import RemoteSurface.Action
import RemoteSurface.Origin.Reply
import RemoteSurface.Json.Source
/-!
Sending an action to the origin, and reading its verdict. An action that is not well formed is not
sent. Nothing is sent twice.
-/
namespace RemoteSurface

/-- What became of an action. -/
structure ActionResult where
  accepted : Bool
  reason : Option String := none
deriving DecidableEq

namespace ActionResult

/-- An action that was turned down, and why. -/
def rejected (reason : String) : ActionResult := ⟨false, some reason⟩

/-- The JSON object of a result; without a reason it says nothing of one. -/
def toJson (r : ActionResult) : Json :=
  .object (("accepted", .bool r.accepted) ::
    match r.reason with
    | some reason => [("reason", .text reason)]
    | none => [])

/-- The keys of a verdict, in the order of its fields. -/
def verdictNames : List String := ["accepted", "reason"]

/-- A verdict of which only some fields are read. -/
structure Draft where
  accepted : Option Bool := none
  reason : Option String := none

/-- Sets a field of a verdict from what is written under its key. -/
def setVerdict (d : Draft) (m : String × Source) : Option Draft :=
  match m with
  | ("accepted", .bool b) => some { d with accepted := some b }
  | ("reason", .null) => some { d with reason := none }
  | ("reason", .text (some s)) => some { d with reason := some s }
  | _ => none

/-- The verdict that a body writes: whether the action is accepted must be said, and a reason is a
text. -/
def ofSource? (s : Source) : Option ActionResult :=
  (Source.fields? verdictNames s).bind fun ms =>
    (ms.foldlM setVerdict {}).bind fun d => d.accepted.map fun a => ⟨a, d.reason⟩

/-- The verdict in the bytes of a body. Bytes that belong to no character are in the way only of
the strings that are looked at. -/
def ofBytes? (bytes : List UInt8) : Option ActionResult :=
  (Source.parseUnits? (Text.units bytes)).bind ofSource?

/-- What a reply says about an action. Without a verdict, the status decides. -/
def ofReply : Reply → ActionResult
  | .answered status _ ⟨chunks, .finished⟩ =>
    match ofBytes? chunks.flatten with
    | some verdict => verdict
    | none =>
      if Reply.isSuccess status then ⟨true, none⟩ else rejected ("http_" ++ toString status)
  | _ => rejected "network_error"

end ActionResult

namespace Action

/-- What is sent to the origin: the action, and the session it belongs to. -/
def envelope (sessionId : Option String) (a : Action) : Json :=
  .object [("sessionId", .ofText? sessionId), ("userAction", a.toJson)]

def isValid (a : Action) : Bool := a.violations.isEmpty

/-- Sends an action to an origin that replies as given. -/
def dispatch (a : Action) (reply : Reply) : ActionResult :=
  if a.isValid then .ofReply reply else .rejected "invalid_action"

end Action

end RemoteSurface
