import RemoteSurface.Text.Split
import RemoteSurface.Url.Percent
/-!
Queries as forms: names and values, with a sign between each name and its value and another between
pairs. A space is written as a plus sign.
-/
namespace RemoteSurface

namespace Form

def isPlain (c : Char) : Bool := c.isAlphanum || ['*', '-', '.', '_'].contains c

def encode (cs : List Char) : List Char :=
  cs.flatMap fun c =>
    if c = ' ' then ['+'] else if isPlain c then [c] else Percent.escapeChar c

def decode (cs : List Char) : List Char :=
  Text.decodeLossy (Percent.decode (cs.map fun c => if c = '+' then ' ' else c))

def encodePair (name value : List Char) : List Char := encode name ++ '=' :: encode value

/-- The query with one more pair; the first follows the question mark without a sign. -/
def append (query : List Char) (name value : List Char) : List Char :=
  if query.isEmpty then encodePair name value else query ++ '&' :: encodePair name value

def pairs (query : List Char) : List (List Char × List Char) :=
  ((Text.pieces '&' query).filter fun piece => !piece.isEmpty).map fun piece =>
    match Text.cut? '=' piece with
    | some (name, value) => (decode name, decode value)
    | none => (decode piece, [])

end Form

end RemoteSurface
