import RemoteSurface.Url
import RemoteSurface.Url.Segments
/-!
Reading URLs. The fragment and the query are cut off first; what is left is a scheme, perhaps an
authority, and a path.
-/
namespace RemoteSurface

namespace Url

/-- A text without blanks and controls at either end, and without tabs and line ends anywhere. -/
def clean (s : List Char) : List Char :=
  let isEdge := fun (c : Char) => c.toNat ≤ 0x20
  (((s.dropWhile isEdge).reverse.dropWhile isEdge).reverse).filter fun c =>
    !(['\t', '\n', '\r'].contains c)

/-- A text up to the first sign, and what stands after the sign if there is one. -/
def cutOff (sign : Char) (s : List Char) : List Char × Option (List Char) :=
  match Text.cut? sign s with
  | some (front, rest) => (front, some rest)
  | none => (s, none)

/-- Whether a character may stand in a scheme after its first letter. -/
def isSchemeChar (c : Char) : Bool := c.isAlphanum || ['+', '-', '.'].contains c

/-- The scheme before the first colon, and what stands after it. -/
def cutScheme? (s : List Char) : Option (String × List Char) :=
  match Text.cut? ':' s with
  | some (letter :: more, rest) =>
    if letter.isAlpha && more.all isSchemeChar then
      some (String.ofList ((letter :: more).map Char.toLower), rest)
    else none
  | _ => none

def isSlash (bothWays : Bool) (c : Char) : Bool := c == '/' || (bothWays && c == '\\')

/-- What stands before and after the last at sign. -/
def cutUser (s : List Char) : Option (List Char × List Char) :=
  let back := s.reverse
  (Text.cut? '@' back).map fun p => (p.2.reverse, p.1.reverse)

/-- A host, and what follows it from the first colon outside of brackets on. -/
def cutHost : (inBrackets : Bool) → List Char → List Char × List Char
  | _, [] => ([], [])
  | inBrackets, c :: rest =>
    if c = ':' ∧ inBrackets = false then ([], c :: rest)
    else
      let inside := if c = '[' then true else if c = ']' then false else inBrackets
      let (host, after) := cutHost inside rest
      (c :: host, after)

/-- A port after a colon, unless it is the default one, and what follows it. -/
def takePort (default? : Option Nat) (s : List Char) :
    Except UrlFault (Option Nat × List Char) :=
  let ds := s.takeWhile Char.isDigit
  let rest := s.drop ds.length
  let value := (Address.digits? 10 ds).getD 0
  if 65535 < value then .error .badPort
  else match rest with
    | [] | '\\' :: _ =>
      .ok (if ds.isEmpty || default? == some value then none else some value, rest)
    | _ => .error .badPort

/-- The user and the password before an at sign. -/
def readUser (s : List Char) : List Char × List Char :=
  let (user, password) := cutOff ':' s
  (Percent.encode Percent.inUser user, Percent.encode Percent.inUser (password.getD []))

/-- Reads a host; one that is named by nothing is left to the scheme. -/
def readHost (kind : SchemeKind) (s : List Char) : Except UrlFault Host :=
  match kind with
  | .other => if s.isEmpty then .ok (.name []) else Host.ofPlain s
  | _ => if s.isEmpty then .error .emptyHost else Host.ofDomain s

/-- Reads an authority up to the path, which may begin in it. An authority that names a user or a
port names a host. -/
def readAuthority (scheme : String) (s : List Char) :
    Except UrlFault (Authority × List Char) :=
  let (account, place) := match cutUser s with
    | some (account, place) => (some account, place)
    | none => (none, s)
  let (user, password) := readUser (account.getD [])
  let (hostText, after) := cutHost false place
  match readHost (SchemeKind.of scheme) hostText with
  | .error fault => .error fault
  | .ok host =>
    let named := account == some [] || !user.isEmpty || !password.isEmpty || !after.isEmpty
    if host.isEmpty && named then .error .emptyHost
    else match after with
      | ':' :: port =>
        (takePort (defaultPort? scheme) port).map fun (port, rest) =>
          ({ user := user, password := password, host := host, port := port }, rest)
      | _ => .ok ({ user := user, password := password, host := host }, [])

def readPath (kind : SchemeKind) (s : List Char) : UrlPath :=
  let bothWays := kind != .other
  match s with
  | [] => if bothWays then .rooted [[]] else .rooted []
  | c :: rest =>
    .rooted (Segments.resolve []
      (Segments.pieces bothWays (if isSlash bothWays c then rest else c :: rest)))

/-- Reads what follows the scheme of a URL with an authority, behind the slashes. -/
def readPlace (scheme : String) (s : List Char) : Except UrlFault (Authority × UrlPath) :=
  let kind := SchemeKind.of scheme
  let text := s.takeWhile fun c => !isSlash (kind == .web) c
  (readAuthority scheme text).map fun (a, more) =>
    (a, readPath kind (more ++ s.drop text.length))

/-- Reads what follows the scheme of a file: a host after two slashes, unless a drive stands
there. The host is left out if it is this one, or if a drive follows. -/
def readFile (s : List Char) : Except UrlFault (Authority × UrlPath) :=
  let none_ : Authority := { host := .name [] }
  let path := fun s => UrlPath.rooted (Segments.ofFile (Segments.pieces true s))
  match s with
  | a :: b :: rest =>
    if isSlash true a && isSlash true b then
      let host := rest.takeWhile fun c => !isSlash true c
      let after := rest.drop host.length
      if host.isEmpty then .ok (none_, path after)
      else if Segments.isDrive host then .ok (none_, path rest)
      else (Host.ofDomain host).map fun h =>
        let drive := (Segments.pieces true (after.drop 1)).head?.any Segments.isDrive
        let here := h == .name "localhost".toList || drive
        ({ host := if here then .name [] else h }, path after)
    else .ok (none_, path s)
  | s => .ok (none_, path s)

/-- Reads what follows the scheme of any other URL. -/
def readOther (scheme : String) (s : List Char) :
    Except UrlFault (Option Authority × UrlPath) :=
  match s with
  | '/' :: '/' :: rest => (readPlace scheme rest).map fun (a, p) => (some a, p)
  | '/' :: rest => .ok (none, .rooted (Segments.resolve [] (Segments.pieces false rest)))
  | s => .ok (none, .bare (Percent.encode Percent.isControl s))

/-- Reads what stands between the scheme and the query. -/
def readHierarchy (scheme : String) (s : List Char) :
    Except UrlFault (Option Authority × UrlPath) :=
  match SchemeKind.of scheme with
  | .web => (readPlace scheme (s.dropWhile (isSlash true))).map fun (a, p) => (some a, p)
  | .file => (readFile s).map fun (a, p) => (some a, p)
  | .other => readOther scheme s

def parse (s : String) : Except UrlFault Url :=
  let (text, fragment) := cutOff '#' (clean s.toList)
  let (text, query) := cutOff '?' text
  match cutScheme? text with
  | none => .error .relative
  | some (scheme, rest) =>
    let querySet :=
      if SchemeKind.of scheme = .other then Percent.inQuery else Percent.inWebQuery
    (readHierarchy scheme rest).map fun (authority, path) =>
      { scheme := scheme
        authority := authority
        path := path
        query := query.map (Percent.encode querySet)
        fragment := fragment.map (Percent.encode Percent.inFragment) }

end Url

end RemoteSurface
