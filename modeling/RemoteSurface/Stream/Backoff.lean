/-!
Delays before reconnecting. Each is twice the one before, up to a cap; a success starts over; an
optional limit says how many attempts there are. Times are in milliseconds.
-/
namespace RemoteSurface

/-- A backoff: the first delay, the cap, the limit, and the attempts since the last success. -/
structure Backoff where
  base : Nat
  cap : Nat
  limit : Option Nat := none
  attempts : Nat := 0
deriving DecidableEq

namespace Backoff

/-- The greatest number of attempts that is told apart, and the greatest factor. -/
def countLimit : Nat := Nat.pow 2 32 - 1

/-- The longest time there is: all of its seconds in sixty-four bits, and the rest of the last
second. -/
def longest : Nat := (Nat.pow 2 64 - 1) * 1000 + 999

/-- The factor of the k-th attempt, a power of two as long as it fits thirty-two bits. -/
def factor (attempt : Nat) : Nat :=
  if attempt - 1 < 32 then Nat.pow 2 (attempt - 1) else countLimit

/-- Whether an attempt is beyond the limit. -/
def isSpent (limit : Option Nat) (attempt : Nat) : Bool :=
  match limit with
  | some most => most < attempt
  | none => false

/-- Counts an attempt; gives the delay before it, or nothing once the limit is spent. -/
def next (b : Backoff) : Backoff × Option Nat :=
  let attempt := min (b.attempts + 1) countLimit
  let delay := min (min (b.base * factor attempt) longest) b.cap
  ({ b with attempts := attempt }, if isSpent b.limit attempt then none else some delay)

/-- Counts attempts whose delays nobody asks for. -/
def skip (b : Backoff) (count : Nat) : Backoff :=
  { b with attempts := min (b.attempts + count) countLimit }

/-- Forgets the attempts so far. -/
def reset (b : Backoff) : Backoff := { b with attempts := 0 }

end Backoff

end RemoteSurface
