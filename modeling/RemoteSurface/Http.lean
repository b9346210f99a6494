import RemoteSurface.Text.Split
import RemoteSurface.Text.Utf8
import RemoteSurface.Url
/-!
Requests and the heads of responses, as lines on a connection.
-/
namespace RemoteSurface

namespace Http

/-- A request to a URL: what it asks for, its headers, and its content. -/
structure Request where
  method : String
  url : Url
  headers : List (String × String)
  content : List UInt8 := []

def bytesOf (s : String) : List UInt8 := Text.encode s.toList

/-- The host of a URL with its port, as a request names it. -/
def hostOf (u : Url) : String :=
  match u.authority with
  | some a => String.ofList (a.host.render ++ a.renderPort)
  | none => ""

def headerLine (name value : String) : String := name ++ ": " ++ value ++ "\r\n"

/-- Writes a request. The connection is not used again after it. -/
def Request.bytes (r : Request) : List UInt8 :=
  let length := if r.content.isEmpty then [] else [("content-length", toString r.content.length)]
  let headers := ("host", hostOf r.url) :: ("connection", "close") :: r.headers ++ length
  bytesOf (r.method ++ " " ++ r.url.target ++ " HTTP/1.1\r\n" ++
    String.join (headers.map fun h => headerLine h.1 h.2) ++ "\r\n") ++ r.content

/-- The head of a response: its status, and its headers with names in lower case. -/
structure Head where
  status : Nat
  headers : List (String × List UInt8)

/-- The value of the first header of a name. -/
def Head.header? (h : Head) (name : String) : Option (List UInt8) := h.headers.lookup name

/-- The bytes up to the first empty line and those after it, once it has come. -/
def cutHead? : List UInt8 → Option (List UInt8 × List UInt8)
  | 0x0D :: 0x0A :: 0x0D :: 0x0A :: rest => some ([], rest)
  | b :: rest => (cutHead? rest).map fun p => (b :: p.1, p.2)
  | [] => none

/-- The lines of a head: one character stands for each byte. -/
def headLines (bytes : List UInt8) : List (List Char) :=
  (Text.pieces '\n' (bytes.map fun b => Char.ofNat b.toNat)).map fun line =>
    (Text.dropLast? '\r' line).getD line

/-- Whether a character is blank within a line. -/
def isLineBlank (c : Char) : Bool := c == ' ' || c == '\t'

/-- A text without blanks at either end. -/
def trimLine (s : List Char) : List Char :=
  ((s.dropWhile isLineBlank).reverse.dropWhile isLineBlank).reverse

/-- The name and the value of a header line. -/
def headerOf? (line : List Char) : Option (String × List UInt8) :=
  (Text.cut? ':' line).map fun p =>
    (String.ofList (p.1.map Char.toLower), (trimLine p.2).map fun c => UInt8.ofNat c.toNat)

/-- The status in the first line of a head. -/
def statusOf? (line : List Char) : Option Nat :=
  match Text.pieces ' ' line with
  | version :: code :: _ =>
    if "HTTP/1.".toList.isPrefixOf version && code.length == 3 && code.all Char.isDigit then
      (String.ofList code).toNat?
    else none
  | _ => none

def Head.parse? (bytes : List UInt8) : Option Head :=
  match headLines bytes with
  | first :: lines => (statusOf? first).bind fun s => (lines.mapM headerOf?).map fun hs => ⟨s, hs⟩
  | [] => none

end Http

end RemoteSurface
