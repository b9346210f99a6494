/-!
UTF-8 read leniently. A byte sequence that encodes no character is replaced by the replacement
character, once for each longest start of an encoding; whatever follows is read afresh. Reading is
a machine that keeps, between bytes, what the character under way still needs.
-/
namespace RemoteSurface

namespace Text

namespace Utf8

/-- Between two bytes: no character under way, or one that still needs `left` more bytes, the
next between `low` and `high`. -/
inductive State where
  | idle
  | within (value left : Nat) (low high : UInt8)

/-- What a byte does when no character is under way. -/
inductive Lead where
  | whole (c : Char)
  | opens (s : State)
  | bad

def replacement : Char := '\uFFFD'

/-- Leading bytes. Four of them restrict the byte after them, which keeps out overlong forms,
surrogates and code points beyond the last. -/
def lead (b : UInt8) : Lead :=
  if b < 0x80 then .whole (Char.ofNat b.toNat)
  else if b < 0xC2 then .bad
  else if b < 0xE0 then .opens (.within (b.toNat - 0xC0) 1 0x80 0xBF)
  else if b = 0xE0 then .opens (.within 0 2 0xA0 0xBF)
  else if b = 0xED then .opens (.within 0xD 2 0x80 0x9F)
  else if b < 0xF0 then .opens (.within (b.toNat - 0xE0) 2 0x80 0xBF)
  else if b = 0xF0 then .opens (.within 0 3 0x90 0xBF)
  else if b < 0xF4 then .opens (.within (b.toNat - 0xF0) 3 0x80 0xBF)
  else if b = 0xF4 then .opens (.within 4 3 0x80 0x8F)
  else .bad

/-- One byte when no character is under way. -/
def start (b : UInt8) : State × List Char :=
  match lead b with
  | .whole c => (.idle, [c])
  | .opens s => (s, [])
  | .bad => (.idle, [replacement])

/-- One byte: the state after it and the characters it completes. -/
def step (s : State) (b : UInt8) : State × List Char :=
  match s with
  | .idle => start b
  | .within value left low high =>
    if low ≤ b ∧ b ≤ high then
      let value := value * 64 + (b.toNat - 0x80)
      if left ≤ 1 then (.idle, [Char.ofNat value])
      else (.within value (left - 1) 0x80 0xBF, [])
    else
      let (next, cs) := start b
      (next, replacement :: cs)

/-- Reads bytes to the end; a character left unfinished is replaced. -/
def run : State → List UInt8 → List Char
  | .idle, [] => []
  | .within _ _ _ _, [] => [replacement]
  | s, b :: rest =>
    let (next, cs) := step s b
    cs ++ run next rest

end Utf8

/-- The characters of a byte sequence, read leniently. -/
def decodeLossy (bytes : List UInt8) : List Char := Utf8.run .idle bytes

def encode (cs : List Char) : List UInt8 := cs.flatMap String.utf8EncodeChar

/-- The characters that bytes encode, if reading replaced nothing: encoding them gives the bytes
back. -/
def decode? (bytes : List UInt8) : Option (List Char) :=
  let cs := decodeLossy bytes
  if encode cs = bytes then some cs else none

/-- How many bytes a character takes whose encoding begins with a byte. -/
def encodedLength (b : UInt8) : Nat :=
  if b < 0x80 then 1 else if b < 0xE0 then 2 else if b < 0xF0 then 3 else 4

/-- The characters of a byte sequence, with none for each byte that belongs to no character, after
so many bytes of the last character. -/
def unitsAfter : Nat → List UInt8 → List (Option Char)
  | _, [] => []
  | more + 1, _ :: rest => unitsAfter more rest
  | 0, b :: rest =>
    match decode? ((b :: rest).take (encodedLength b)) with
    | some [c] => some c :: unitsAfter (encodedLength b - 1) rest
    | _ => none :: unitsAfter 0 rest

/-- The characters of a byte sequence, with none for each byte that belongs to no character. -/
def units (bytes : List UInt8) : List (Option Char) := unitsAfter 0 bytes

end Text

end RemoteSurface
