import RemoteSurface.Text.Normal.Tables
/-!
The composed normal form of a text: marks stand in the order of their classes, and whatever can be
written as one character is. Syllables of Hangul are composed by arithmetic.
-/
namespace RemoteSurface

namespace Text

def isMark (c : Char) : Bool := (Run.find? c.toNat markRuns).any fun r => r.label == 'M'

/-- The combining class of the characters of a run. -/
def classOf : Run → Nat
  | ⟨_, _, _, [k]⟩ => k
  | _ => 0

/-- The combining class of a character; zero for one that starts afresh. -/
def combiningClass (c : Char) : Nat := ((Run.find? c.toNat classRuns).map classOf).getD 0

/-- The two characters that a Hangul syllable is made of. -/
def splitSyllable? (c : Char) : Option (Char × Char) :=
  let n := c.toNat - 0xAC00
  if c.toNat < 0xAC00 ∨ 11172 ≤ n then none
  else if n % 28 = 0 then
    some (Char.ofNat (0x1100 + n / 588), Char.ofNat (0x1161 + n % 588 / 28))
  else some (Char.ofNat (0xAC00 + n / 28 * 28), Char.ofNat (0x11A7 + n % 28))

/-- The two characters that a character is made of. -/
def split? (c : Char) : Option (Char × Char) :=
  match splitSyllable? c, Run.find? c.toNat pairRuns with
  | some pair, _ => some pair
  | none, some ⟨_, _, 'P', [a, b]⟩ => some (Char.ofNat a, Char.ofNat b)
  | none, _ => none

/-- What a character is made of in the end; nothing is made of parts more than three deep. -/
def splitAll : (depth : Nat) → Char → List Char
  | 0, c => [c]
  | depth + 1, c =>
    match split? c with
    | some (a, b) => splitAll depth a ++ [b]
    | none => [c]

/-- Puts a mark behind what stands before it, last one first; marks of higher classes stay behind
it. -/
def insertMark (c : Char) : List Char → List Char
  | [] => [c]
  | d :: back =>
    let k := combiningClass c
    if k ≠ 0 ∧ k < combiningClass d then d :: insertMark c back else c :: d :: back

/-- The characters with their marks in order. -/
def orderMarks (cs : List Char) : List Char :=
  (cs.foldl (fun back c => insertMark c back) []).reverse

/-- The Hangul syllable that two characters make up. -/
def joinSyllable? (a b : Char) : Option Char :=
  let l := a.toNat - 0x1100
  let v := b.toNat - 0x1161
  let t := b.toNat - 0x11A7
  if 0x1100 ≤ a.toNat ∧ l < 19 ∧ 0x1161 ≤ b.toNat ∧ v < 21 then
    some (Char.ofNat (0xAC00 + (l * 21 + v) * 28))
  else if 0xAC00 ≤ a.toNat ∧ a.toNat - 0xAC00 < 11172 ∧ (a.toNat - 0xAC00) % 28 = 0 ∧
      0x11A7 < b.toNat ∧ t < 28 then
    some (Char.ofNat (a.toNat + t))
  else none

/-- The character that two characters make up. -/
def join? (a b : Char) : Option Char :=
  match joinSyllable? a b with
  | some c => some c
  | none =>
    (pairRuns.find? fun r => r.label == 'P' && r.numbers == [a.toNat, b.toNat]).map fun r =>
      Char.ofNat r.first

/-- Text that is being composed: what is finished, last one first, the character that others may
join, and the marks behind it that did not, last one first. -/
structure Composing where
  back : List Char := []
  starter : Option Char := none
  marks : List Char := []

/-- Whether a character reaches the one that it may join: no mark between them is of its class or of
a higher one. -/
def Composing.reaches (t : Composing) (c : Char) : Bool :=
  match t.marks with
  | [] => true
  | last :: _ => combiningClass last < combiningClass c

/-- Everything so far, last one first. -/
def Composing.all (t : Composing) : List Char := t.marks ++ t.starter.toList ++ t.back

def Composing.step (t : Composing) (c : Char) : Composing :=
  match if t.reaches c then t.starter.bind fun s => join? s c else none with
  | some joined => { t with starter := some joined }
  | none =>
    if combiningClass c = 0 then { back := t.all, starter := some c, marks := [] }
    else { t with marks := c :: t.marks }

/-- The composed normal form of characters that have no other form of one character. -/
def composed (cs : List Char) : List Char :=
  ((orderMarks (cs.flatMap (splitAll 3))).foldl Composing.step {}).all.reverse

end Text

end RemoteSurface
