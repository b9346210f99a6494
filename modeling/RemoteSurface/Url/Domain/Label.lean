import RemoteSurface.Text.Normal
import RemoteSurface.Url.Domain.Mapping
import RemoteSurface.Url.Domain.Scripts
/-!
Labels of a domain name, and when their characters may stand together: no label begins with a mark,
joiners stand where they have something to join, and in a name with letters from right to left every
label keeps to one direction.
-/
namespace RemoteSurface

namespace Domain

/-- What may not stand in a label, beyond blanks and controls. -/
def forbidden : List Char :=
  ['%', '#', '/', ':', '<', '>', '?', '@', '[', '\\', ']', '^', '|']

/-- Whether a character is no character of ASCII that may not stand in a label. -/
def isAllowed (c : Char) : Bool :=
  0x80 ≤ c.toNat || (0x20 < c.toNat && c.toNat < 0x7F && !(forbidden.contains c))

/-- The combining class of marks that join consonants. -/
def joiningClass : Nat := 9

/-- Whether a joiner may stand between characters; those before it come last one first. -/
def mayJoin (c : Char) (back rest : List Char) : Bool :=
  let afterMark := back.head?.any fun p => Text.combiningClass p == joiningClass
  let past := fun (cs : List Char) => (cs.dropWhile fun d => joining d == 'T').head?
  if c = '\u200D' then afterMark
  else if c = '\u200C' then
    afterMark || ((past back).any (fun d => joining d == 'L' || joining d == 'D') &&
      (past rest).any (fun d => joining d == 'R' || joining d == 'D'))
  else true

/-- Whether all joiners may stand where they do. -/
def joinersFit : (back rest : List Char) → Bool
  | _, [] => true
  | back, c :: rest => mayJoin c back rest && joinersFit (c :: back) rest

/-- Whether a label keeps to the direction that its first character gives. -/
def keepsDirection (label : List Char) : Bool :=
  let kinds := label.map direction
  let ending := (kinds.reverse.dropWhile (· == 'M')).head?
  match kinds with
  | [] => true
  | 'L' :: _ =>
    kinds.all ['L', 'E', 'S', 'C', 'T', 'O', 'B', 'M'].contains &&
      ending.any ['L', 'E'].contains
  | first :: _ =>
    ['R', 'A'].contains first &&
      kinds.all ['R', 'A', 'N', 'E', 'S', 'C', 'T', 'O', 'B', 'M'].contains &&
      ending.any ['R', 'A', 'E', 'N'].contains && !(kinds.contains 'E' && kinds.contains 'N')

/-- Whether a label has letters or digits from right to left. -/
def isRightToLeft (label : List Char) : Bool :=
  label.any fun c => ['R', 'A', 'N'].contains (direction c)

/-- Whether the characters of a label may stand together, whatever the other labels are. -/
def isLabel (label : List Char) : Bool :=
  !(label.head?.any Text.isMark) && joinersFit [] label && label.all isAllowed

end Domain

end RemoteSurface
