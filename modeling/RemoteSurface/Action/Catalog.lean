import RemoteSurface.Table
import RemoteSurface.Text.Blank
import RemoteSurface.Text.Lowercase
/-!
Catalogs of known actions. Names match regardless of case, of blanks around them, and of the
separators `_` and `-`.
-/
namespace RemoteSurface

/-- Known action identifiers, under their normal forms. -/
structure Catalog where
  entries : Table String

namespace Catalog

/-- Whether a character only separates the words of a name. -/
def isSeparator (c : Char) : Bool := c == '_' || c == '-'

/-- The normal form of a name: blanks at the ends trimmed, separators dropped, lower case. -/
def normalChars (name : List Char) : List Char :=
  ((Text.trimChars name).filter fun c => !isSeparator c).flatMap Text.lowercase

def normalize (name : String) : String := String.ofList (normalChars name.toList)

/-- The catalog of identifiers: of two with one normal form, the later stays. -/
def ofList (identifiers : List String) : Catalog :=
  ⟨.ofList (identifiers.map fun id => (normalize id, id))⟩

def lookup? (c : Catalog) (name : String) : Option String := c.entries.find? (normalize name)

def contains (c : Catalog) (name : String) : Bool := (c.lookup? name).isSome

/-- How many names are told apart. -/
def size (c : Catalog) : Nat := c.entries.size

end Catalog

end RemoteSurface
