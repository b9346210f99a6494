import RemoteSurface.Stream.Phase
import RemoteSurface.Text.Utf8
/-!
What an origin does when it is asked: it cannot be reached, it stays silent, or it answers with a
head and a body. The same reply is judged in three ways: as the opening of a stream, as the receipt
of a report, and as the verdict on an action.
-/
namespace RemoteSurface

/-- How a body ends: it is complete, it breaks off, or nothing more comes in time. -/
inductive Ending where
  | finished
  | broken
  | silent
deriving DecidableEq

/-- A body: the chunks in which it comes, and how it ends. -/
structure Body where
  chunks : List (List UInt8) := []
  ending : Ending := .finished
deriving DecidableEq

/-- What an origin does when it is asked. -/
inductive Reply where
  | unreachable
  | silent
  | answered (status : Nat) (contentType : Option (List UInt8)) (body : Body)
deriving DecidableEq

namespace Reply

def eventStream : String := "text/event-stream"

/-- Whether a status says that a request was granted. -/
def isSuccess (status : Nat) : Bool := 200 ≤ status && status < 300

/-- The text of a header: it must be there, and of printable ASCII alone. -/
def headerText (value : Option (List UInt8)) : List Char :=
  let bytes := value.getD []
  if bytes.all fun b => b == 0x09 || (0x20 ≤ b && b < 0x7F) then
    bytes.map fun b => Char.ofNat b.toNat
  else []

/-- Whether a text stands somewhere in another. -/
def occursIn (part : List Char) : List Char → Bool
  | [] => part.isEmpty
  | c :: rest => part.isPrefixOf (c :: rest) || occursIn part rest

/-- The stream that a reply opens: its body, if the request was granted and the content type names
events. -/
def opening (url : String) (timeoutSeconds : Nat) : Reply → Except StreamFailure Body
  | unreachable => .error (.unreachable url)
  | silent => .error (.timeout "stream response" timeoutSeconds)
  | answered status contentType body =>
    if !isSuccess status then .error (.status status)
    else
      let given := headerText contentType
      if occursIn eventStream.toList given then .ok body
      else .error (.contentType (String.ofList given))

/-- Whether a reply says that a report was taken. -/
def isReceipt : Reply → Bool
  | answered status _ _ => isSuccess status
  | _ => false

end Reply

end RemoteSurface
