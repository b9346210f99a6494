/-!
Tables of properties of characters, written as runs. A run is a length in base thirty-six with a
capital letter behind it, and perhaps numbers in base thirty-six with a point behind each; every run
begins where the one before it ends.
-/
namespace RemoteSurface

/-- Code points from `first` on that share a label and numbers. -/
structure Run where
  first : Nat
  length : Nat
  label : Char
  numbers : List Nat
deriving DecidableEq

namespace Run

/-- Runs that have been read, the last one first, where the next one begins, and the number under
way. -/
structure Progress where
  back : List Run := []
  start : Nat := 0
  number : Nat := 0

def digit (c : Char) : Nat := if c.isDigit then c.toNat - 48 else c.toNat - 87

/-- Adds a number to the last run. -/
def addNumber (n : Nat) : List Run → List Run
  | [] => []
  | r :: back => { r with numbers := r.numbers ++ [n] } :: back

def step (p : Progress) (c : Char) : Progress :=
  if c = '.' then { p with back := addNumber p.number p.back, number := 0 }
  else if c.isUpper then
    { back := ⟨p.start, p.number, c, []⟩ :: p.back, start := p.start + p.number, number := 0 }
  else { p with number := p.number * 36 + digit c }

def parse (s : String) : List Run := (s.toList.foldl step {}).back.reverse

def find? (n : Nat) (runs : List Run) : Option Run :=
  runs.find? fun r => r.first ≤ n && n < r.first + r.length

end Run

end RemoteSurface
