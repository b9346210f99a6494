import RemoteSurface.Url.Percent
import RemoteSurface.Text.Split
/-!
Path segments. One dot names the place where it stands and two dots the place above; both are
resolved when a URL is read. The letter of a drive stays where it is.
-/
namespace RemoteSurface

namespace Segments

/-- The ways to write a dot. -/
def dots : List (List Char) := [['.'], ['%', '2', 'e'], ['%', '2', 'E']]

def isDot (s : List Char) : Bool := dots.contains s

def isDoubleDot (s : List Char) : Bool := dots.any fun a => dots.any fun b => s == a ++ b

/-- Whether a segment is the letter of a drive: a letter and a colon or a bar. -/
def isDrive : List Char → Bool
  | [letter, mark] => letter.isAlpha && (mark == ':' || mark == '|')
  | _ => false

/-- The place above: without the last segment, unless that is the letter of a drive. -/
def up : List (List Char) → List (List Char)
  | [] => []
  | last :: back => if isDrive last then last :: back else back

/-- Resolves segments; `back` holds those before them, the last one first. -/
def resolve : (back segments : List (List Char)) → List (List Char)
  | back, [] => back.reverse
  | back, [last] =>
    (if isDoubleDot last then [] :: up back
      else if isDot last then [] :: back
      else Percent.encode Percent.inPath last :: back).reverse
  | back, s :: rest =>
    if isDoubleDot s then resolve (up back) rest
    else if isDot s then resolve back rest
    else resolve (Percent.encode Percent.inPath s :: back) rest

/-- The segments of a path to a file: none in front is empty, and a drive is marked by a colon. -/
def ofFile (segments : List (List Char)) : List (List Char) :=
  let rooted := match segments.dropWhile List.isEmpty with
    | [] => [[]]
    | [letter, mark] :: rest =>
      (if isDrive [letter, mark] then [letter, ':'] else [letter, mark]) :: rest
    | rest => rest
  match (resolve [] rooted).dropWhile List.isEmpty with
  | [] => [[]]
  | rest => rest

/-- The pieces between slashes, or between slashes of either lean. -/
def pieces (bothWays : Bool) (s : List Char) : List (List Char) :=
  Text.pieces '/' (if bothWays then s.map fun c => if c = '\\' then '/' else c else s)

end Segments

end RemoteSurface
