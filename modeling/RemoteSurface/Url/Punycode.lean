/-!
Punycode: characters of any kind written in letters and digits. Those of ASCII come first; the
others follow as the steps that a counter takes from one to the next, in ascending order, each step
a number with digits in base thirty-six whose thresholds adapt.
-/
namespace RemoteSurface

namespace Punycode

def digit (n : Nat) : Char := if n < 26 then Char.ofNat (97 + n) else Char.ofNat (22 + n)

def value? (c : Char) : Option Nat :=
  let n := c.toNat
  if 97 ≤ n ∧ n ≤ 122 then some (n - 97)
  else if 65 ≤ n ∧ n ≤ 90 then some (n - 65)
  else if 48 ≤ n ∧ n ≤ 57 then some (n - 22)
  else none

/-- The threshold at a place, which counts in steps of thirty-six. -/
def threshold (bias place : Nat) : Nat := min 26 (max 1 (place - bias))

theorem threshold_pos (bias place : Nat) : 0 < threshold bias place := by
  unfold threshold
  omega

/-- Brings a step down to a size of one digit. -/
def shrink (step places : Nat) : Nat :=
  if 455 < step then shrink (step / 35) (places + 36)
  else places + 36 * step / (step + 38)
termination_by step
decreasing_by exact Nat.div_lt_self (by omega) (by omega)

/-- The bias after a step, when so many characters have been placed. -/
def adapt (step count : Nat) (isFirst : Bool) : Nat :=
  let scaled := if isFirst then step / 700 else step / 2
  shrink (scaled + scaled / count) 0

/-- Writes a step, its lowest digit first. -/
def writeStep (bias place step : Nat) : List Char :=
  let t := threshold bias place
  if step < t then [digit step]
  else
    digit (t + (step - t) % (36 - t)) :: writeStep bias (place + 36) ((step - t) / (36 - t))
termination_by step
decreasing_by
  have low := threshold_pos bias place
  calc (step - threshold bias place) / (36 - threshold bias place)
      ≤ step - threshold bias place := Nat.div_le_self _ _
    _ < step := by omega

/-- What a writer keeps: the step under way, the bias, how many characters have been written, and
the text so far, last one first. -/
structure Writer where
  step : Nat := 0
  bias : Nat := 72
  count : Nat
  back : List Char

/-- Passes one character while the counter stands at a code point. -/
def Writer.pass (ascii code : Nat) (w : Writer) (c : Char) : Writer :=
  if c.toNat < code then { w with step := w.step + 1 }
  else if c.toNat = code then
    { step := 0
      bias := adapt w.step (w.count + 1) (w.count == ascii)
      count := w.count + 1
      back := (writeStep w.bias 36 w.step).reverse ++ w.back }
  else w

/-- Writes code points, ascending; the counter stands at `code` before them. -/
def writeCodes (cs : List Char) (ascii : Nat) : List Nat → (code : Nat) → Writer → Writer
  | [], _, w => w
  | next :: later, code, w =>
    let w := { w with step := w.step + (next - code) * (w.count + 1) }
    let w := cs.foldl (Writer.pass ascii next) w
    writeCodes cs ascii later (next + 1) { w with step := w.step + 1 }

/-- The code points beyond ASCII, ascending, each once. -/
def codes (cs : List Char) : List Nat :=
  (((cs.map Char.toNat).filter (0x80 ≤ ·)).mergeSort (· ≤ ·)).eraseReps

def encode (cs : List Char) : List Char :=
  let ascii := cs.filter fun c => c.toNat < 0x80
  let front := if ascii.isEmpty then [] else ascii ++ ['-']
  (writeCodes cs ascii.length (codes cs) 0x80
    { count := ascii.length, back := front.reverse }).back.reverse

/-- Reads a step; gives it with what follows. -/
def readStep (bias : Nat) : (place weight step : Nat) → List Char → Option (Nat × List Char)
  | _, _, _, [] => none
  | place, weight, step, c :: rest =>
    match value? c with
    | none => none
    | some d =>
      let t := threshold bias place
      let step := step + d * weight
      if d < t then some (step, rest)
      else readStep bias (place + 36) (weight * (36 - t)) step rest

theorem length_of_readStep {bias place weight step : Nat} {text : List Char}
    {r : Nat × List Char} (h : readStep bias place weight step text = some r) :
    r.2.length < text.length := by
  induction text generalizing place weight step with
  | nil => simp [readStep] at h
  | cons c rest ih =>
    simp only [readStep] at h
    split at h
    · simp at h
    · split at h
      · simp [← Option.some.inj h]
      · exact Nat.lt_succ_of_lt (ih h)

def insertAt (cs : List Char) (position : Nat) (c : Char) : List Char :=
  cs.take position ++ c :: cs.drop position

/-- Reads steps, from a code point and a position on. -/
def readCodes (code position bias : Nat) (isFirst : Bool) (cs : List Char) :
    List Char → Option (List Char)
  | [] => some cs
  | c :: text =>
    match found : readStep bias 36 1 0 (c :: text) with
    | none => none
    | some (step, rest) =>
      let count := cs.length + 1
      let code := code + (position + step) / count
      let position := (position + step) % count
      if code < 0x110000 ∧ ¬(0xD800 ≤ code ∧ code < 0xE000) then
        readCodes code (position + 1) (adapt step count isFirst) false
          (insertAt cs position (Char.ofNat code)) rest
      else none
termination_by text => text.length
decreasing_by simpa using length_of_readStep found

/-- Reads characters back. What stands before the last hyphen is ASCII; a hyphen with nothing
before it belongs to what follows. -/
def decode? (s : List Char) : Option (List Char) :=
  let ending := (s.reverse.takeWhile (· ≠ '-')).reverse
  let ascii := s.take (s.length - ending.length - 1)
  let steps := if ascii.isEmpty then s else ending
  if ascii.all fun c => c.toNat < 0x80 then readCodes 0x80 0 72 true ascii steps
  else none

end Punycode

end RemoteSurface
