import RemoteSurface.Text.Blank
import RemoteSurface.Text.Split
import RemoteSurface.Stream.Phase
/-!
Where a session id comes from: it is given, or found in the environment, or made up. Blank ids
count as absent.
-/
namespace RemoteSurface

/-- The source of a session id, and the id where one was given or found. -/
inductive SessionSource where
  | explicit (id : String)
  | environment (id : String)
  | generated
deriving DecidableEq

namespace SessionSource

/-- A trimmed id, unless it is blank. -/
def given? (id : Option String) : Option String :=
  (id.map Text.trim).filter fun s => s != ""

/-- Picks a session id: what is given wins over the environment. -/
def pick (explicit environment : Option String) : SessionSource :=
  match given? explicit, given? environment with
  | some id, _ => .explicit id
  | none, some id => .environment id
  | none, none => .generated

/-- The session id, given the one to use if none is given or found. -/
def id (fresh : String) : SessionSource → String
  | .explicit id => id
  | .environment id => id
  | .generated => fresh

end SessionSource

/-- An id made of sixteen random bytes, with the version and the variant that say so. -/
def freshSessionId (random : List UInt8) : String :=
  let bytes := random.take 16
  let marked := bytes.zipIdx.map fun (b, i) =>
    if i = 6 then b % 16 + 0x40 else if i = 8 then b % 64 + 0x80 else b
  let hex := fun (b : UInt8) => [Nat.digitChar (b.toNat / 16), Nat.digitChar (b.toNat % 16)]
  let group := fun first count => ((marked.drop first).take count).flatMap hex
  String.ofList (Text.joinWith '-' [group 0 4, group 4 2, group 6 2, group 8 2, group 10 6])

/-- The id of the session that a provider reports; a blank one is none. -/
def providedSession (reported : Option String) : Except StreamFailure String :=
  match reported.filter fun s => !Text.isBlank s with
  | some id => .ok id
  | none => .error .noSession

end RemoteSurface
