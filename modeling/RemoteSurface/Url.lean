import RemoteSurface.Url.Form
import RemoteSurface.Url.Host
/-!
URLs: their parts, and how they are written.
-/
namespace RemoteSurface

/-- How the URLs of a scheme are read: those of files, those that always have a host, and all
others. -/
inductive SchemeKind where
  | file
  | web
  | other
deriving DecidableEq

def SchemeKind.of (scheme : String) : SchemeKind :=
  if scheme = "file" then .file
  else if ["http", "https", "ws", "wss", "ftp"].contains scheme then .web
  else .other

/-- The port that a scheme uses if none is given. -/
def defaultPort? (scheme : String) : Option Nat :=
  match scheme with
  | "http" => some 80
  | "ws" => some 80
  | "https" => some 443
  | "wss" => some 443
  | "ftp" => some 21
  | _ => none

/-- Where the resource of a URL is: a user, a password, a host, and a port other than the default
one. -/
structure Authority where
  user : List Char := []
  password : List Char := []
  host : Host
  port : Option Nat := none
deriving DecidableEq

/-- A path: segments, each behind a slash, or a text that is no path of segments. -/
inductive UrlPath where
  | rooted (segments : List (List Char))
  | bare (text : List Char)
deriving DecidableEq

/-- A URL, every part in escaped form. -/
structure Url where
  scheme : String
  authority : Option Authority := none
  path : UrlPath
  query : Option (List Char) := none
  fragment : Option (List Char) := none
deriving DecidableEq

namespace Authority

/-- The user and the password before an at sign, if there is either. -/
def renderUser (a : Authority) : List Char :=
  let password := if a.password.isEmpty then [] else ':' :: a.password
  if a.user.isEmpty && a.password.isEmpty then [] else a.user ++ password ++ ['@']

/-- A colon and the port, if there is one. -/
def renderPort (a : Authority) : List Char :=
  match a.port with
  | some port => ':' :: (toString port).toList
  | none => []

def render (a : Authority) : List Char :=
  '/' :: '/' :: a.renderUser ++ a.host.render ++ a.renderPort

end Authority

namespace UrlPath

def render : UrlPath → List Char
  | rooted segments => segments.flatMap fun s => '/' :: s
  | bare text => text

/-- Whether a path begins with two slashes. -/
def looksLikeAuthority : UrlPath → Bool
  | rooted ([] :: _ :: _) => true
  | _ => false

end UrlPath

namespace Url

/-- What stands between the scheme and the query: the authority and the path. A path that begins
with two slashes and has no authority before it is kept apart by a dot. -/
def renderPlace (u : Url) : List Char :=
  match u.authority with
  | some a => a.render ++ u.path.render
  | none => (if u.path.looksLikeAuthority then ['/', '.'] else []) ++ u.path.render

/-- A part behind its sign, if it is there. -/
def renderPart (sign : Char) : Option (List Char) → List Char
  | some part => sign :: part
  | none => []

def render (u : Url) : String :=
  String.ofList (u.scheme.toList ++ ':' :: u.renderPlace ++ renderPart '?' u.query ++
    renderPart '#' u.fragment)

/-- The path and the query, as a request names them. -/
def target (u : Url) : String :=
  String.ofList (u.path.render ++ renderPart '?' u.query)

/-- A URL with one more pair in its query. -/
def withPair (u : Url) (name value : String) : Url :=
  { u with query := some (Form.append (u.query.getD []) name.toList value.toList) }

end Url

end RemoteSurface
