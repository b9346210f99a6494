/-!
Blank characters and blank texts, and trimming. Blank is the property White_Space: twenty-five
characters, of which the zero-width space is none.
-/
namespace RemoteSurface

namespace Text

def isBlankChar (c : Char) : Bool :=
  let n := c.toNat
  (0x09 ≤ n && n ≤ 0x0D) || n == 0x20 || n == 0x85 || n == 0xA0 || n == 0x1680 ||
  (0x2000 ≤ n && n ≤ 0x200A) || n == 0x2028 || n == 0x2029 || n == 0x202F || n == 0x205F ||
  n == 0x3000

/-- Characters without the blank ones at either end. -/
def trimChars (s : List Char) : List Char :=
  ((s.dropWhile isBlankChar).reverse.dropWhile isBlankChar).reverse

/-- A text without blank characters at either end. -/
def trim (s : String) : String := String.ofList (trimChars s.toList)

/-- Whether a text has blank characters only. -/
def isBlank (s : String) : Bool := s.toList.all isBlankChar

end Text

end RemoteSurface
