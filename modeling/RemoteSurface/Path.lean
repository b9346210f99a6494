import RemoteSurface.Value
import RemoteSurface.Text.Blank
import RemoteSurface.Text.Split
/-!
Paths into a data model. A path is written as segments between slashes; a slash inside a segment
is written `~1` and a tilde `~0`. Empty segments and single dots count for nothing, so a key that
is empty or a single dot has no path.
-/
namespace RemoteSurface

namespace Segment

/-- Reads a written segment. A tilde before anything but the two digits stands for itself. -/
def unescape : List Char → List Char
  | [] => []
  | '~' :: '0' :: rest => '~' :: unescape rest
  | '~' :: '1' :: rest => '/' :: unescape rest
  | c :: rest => c :: unescape rest

/-- One character of a key as it stands in a path. -/
def escapeChar (c : Char) : List Char :=
  if c = '~' then ['~', '0'] else if c = '/' then ['~', '1'] else [c]

def escape (key : List Char) : List Char := key.flatMap escapeChar

/-- The key that a written segment names. -/
def read (s : String) : String := String.ofList (unescape s.toList)

def write (key : String) : String := String.ofList (escape key.toList)

/-- Whether a written segment counts. -/
def counts (s : List Char) : Bool := s != [] && s != ['.']

end Segment

/-- A path: the keys on the way down, and whether the way starts at the root in any scope. -/
structure DataPath where
  absolute : Bool
  segments : List String
deriving DecidableEq

namespace DataPath

/-- The keys between the slashes of a trimmed path. -/
def segmentsOf (s : List Char) : List String :=
  ((Text.pieces '/' s).filter Segment.counts).map fun p => String.ofList (Segment.unescape p)

/-- Reads a path. Blanks at its ends do not count; a slash in front makes it absolute. -/
def parse (s : String) : DataPath :=
  let trimmed := Text.trimChars s.toList
  ⟨trimmed.head? == some '/', segmentsOf trimmed⟩

def isRoot (p : DataPath) : Bool := p.segments.isEmpty

/-- The absolute path of keys, as it is written. -/
def write (keys : List String) : String :=
  String.ofList ('/' :: Text.joinWith '/' (keys.map fun k => Segment.escape k.toList))

end DataPath

namespace Value

/-- The position that a segment names in a list: decimal digits, optionally after a plus sign, of
a number that fits sixty-four bits. -/
def position? (segment : String) : Option Nat :=
  let digits := match segment.toList with
    | '+' :: rest => rest
    | all => all
  if digits.isEmpty || !digits.all Char.isDigit then none
  else
    let n := Double.digitsValue digits
    if n < Nat.pow 2 64 then some n else none

/-- One step down: into a map by key, into a list by position. -/
def child? (v : Value) (segment : String) : Option Value :=
  match v with
  | .map members => Members.find? segment members
  | .list items => (position? segment).bind fun n => items[n]?
  | _ => none

/-- The value that segments lead down to. -/
def walk? (v : Value) : List String → Option Value
  | [] => some v
  | s :: rest => (v.child? s).bind (walk? · rest)

/-- The value that segments lead down to, if there is one and it is not null. -/
def reach? (v : Value) (segments : List String) : Option Value :=
  (v.walk? segments).filter fun found => !found.isNull

end Value

namespace DataModel

/-- The key of a data model that holds the item a repeated component stands for. -/
def itemKey : String := "$item"

/-- What segments lead to from the root of a data model. The root itself is no value. -/
def fromRoot? (m : DataModel) : List String → Option Value
  | [] => none
  | s :: rest => (m.find? s).bind (·.reach? rest)

/-- What a path leads to. A relative path is looked for in the item first, if there is one, and
then from the root; null counts as nothing found. -/
def lookup? (m : DataModel) (p : DataPath) : Option Value :=
  let fromItem := if p.absolute then none else (m.find? itemKey).bind (·.reach? p.segments)
  fromItem.or (m.fromRoot? p.segments)

/-- What a written path leads to. -/
def resolve? (m : DataModel) (path : String) : Option Value := m.lookup? (DataPath.parse path)

/-- The data model inside a repeated component: the one around it, with the item. -/
def withItem (m : DataModel) (item : Value) : DataModel := m.put itemKey item

end DataModel

end RemoteSurface
