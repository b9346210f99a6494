import Mathlib.Tactic.IntervalCases
import RemoteSurface.Text.Utf8
/-!
Text that was encoded. Reading it gives it back: a leading byte fixes how many bytes follow, and
the bounds that four leading bytes put on the byte after them hold of every character, because no
character is encoded overlong, is a surrogate or lies beyond the last code point. A byte below 0x80
is a whole character, so no longer encoding holds one.
-/
namespace RemoteSurface

namespace Text

namespace Utf8

/-- The byte that carries the last six bits of a number. -/
def tail (n : Nat) : UInt8 := UInt8.ofNat (n % 64 + 0x80)

theorem toNat_tail (n : Nat) : (tail n).toNat = n % 64 + 0x80 := by
  have bound : n % 64 < 64 := Nat.mod_lt n (by decide)
  rw [tail, UInt8.toNat_ofNat', Nat.mod_eq_of_lt (by omega)]

theorem le_tail (n : Nat) : 0x80 ≤ tail n := by
  rw [UInt8.le_iff_toNat_le, toNat_tail]
  exact Nat.le_add_left _ _

theorem tail_le (n : Nat) : tail n ≤ 0xBF := by
  have bound : n % 64 < 64 := Nat.mod_lt n (by decide)
  rw [UInt8.le_iff_toNat_le, toNat_tail]
  change _ ≤ 0xBF
  omega

theorem run_cons (s : State) (b : UInt8) (rest : List UInt8) :
    run s (b :: rest) = (step s b).2 ++ run (step s b).1 rest := by
  cases s <;> rfl

theorem run_opens {b : UInt8} {s : State} (opens : lead b = .opens s) (rest : List UInt8) :
    run .idle (b :: rest) = run s rest := by
  rw [run_cons, step, start, opens]
  rfl

/-- A byte of a character that is not its last. -/
theorem run_inner {n : Nat} {low high : UInt8} (least : low ≤ tail n) (most : tail n ≤ high)
    (value left : Nat) (rest : List UInt8) :
    run (.within value (left + 2) low high) (tail n :: rest) =
      run (.within (value * 64 + n % 64) (left + 1) 0x80 0xBF) rest := by
  have more : ¬ left + 2 ≤ 1 := by omega
  rw [run_cons, step, if_pos ⟨least, most⟩, toNat_tail, Nat.add_sub_cancel]
  dsimp only
  rw [if_neg more]
  rfl

/-- The last byte of a character. -/
theorem run_last {n : Nat} {low high : UInt8} (least : low ≤ tail n) (most : tail n ≤ high)
    (value : Nat) (rest : List UInt8) :
    run (.within value 1 low high) (tail n :: rest) =
      Char.ofNat (value * 64 + n % 64) :: run .idle rest := by
  rw [run_cons, step, if_pos ⟨least, most⟩, toNat_tail, Nat.add_sub_cancel]
  rfl

theorem lead_two {n : Nat} (least : 2 ≤ n) (most : n < 0x20) :
    lead (UInt8.ofNat (n + 0xC0)) = .opens (.within n 1 0x80 0xBF) := by
  interval_cases n <;> rfl

theorem lead_three {n : Nat} (most : n < 0x10) :
    lead (UInt8.ofNat (n + 0xE0)) =
      .opens (.within n 2 (if n = 0 then 0xA0 else 0x80) (if n = 0xD then 0x9F else 0xBF)) := by
  interval_cases n <;> rfl

theorem lead_four {n : Nat} (most : n < 5) :
    lead (UInt8.ofNat (n + 0xF0)) =
      .opens (.within n 3 (if n = 0 then 0x90 else 0x80) (if n = 4 then 0x8F else 0xBF)) := by
  interval_cases n <;> rfl

theorem run_one {n : Nat} (most : n < 0x80) (rest : List UInt8) :
    run .idle (UInt8.ofNat n :: rest) = Char.ofNat n :: run .idle rest := by
  have value : (UInt8.ofNat n).toNat = n := by
    rw [UInt8.toNat_ofNat', Nat.mod_eq_of_lt (by omega)]
  have small : UInt8.ofNat n < 0x80 := by
    rw [UInt8.lt_iff_toNat_lt, value]
    exact most
  rw [run_cons, step, start, lead, if_pos small, value]
  rfl

theorem run_two {n : Nat} (least : 0x80 ≤ n) (most : n < 0x800) (rest : List UInt8) :
    run .idle (UInt8.ofNat (n / 64 % 0x20 + 0xC0) :: tail n :: rest) =
      Char.ofNat n :: run .idle rest := by
  have head : n / 64 % 0x20 = n / 64 := Nat.mod_eq_of_lt (by omega)
  have value : n / 64 * 64 + n % 64 = n := by omega
  rw [head, run_opens (lead_two (by omega) (by omega)), run_last (le_tail n) (tail_le n), value]

theorem run_three {n : Nat} (least : 0x800 ≤ n) (most : n < 0x10000)
    (character : n < 0xD800 ∨ 0xDFFF < n) (rest : List UInt8) :
    run .idle (UInt8.ofNat (n / 4096 % 0x10 + 0xE0) :: tail (n / 64) :: tail n :: rest) =
      Char.ofNat n :: run .idle rest := by
  have head : n / 4096 % 0x10 = n / 4096 := Nat.mod_eq_of_lt (by omega)
  have value : (n / 4096 * 64 + n / 64 % 64) * 64 + n % 64 = n := by omega
  have low : (if n / 4096 = 0 then 0xA0 else 0x80) ≤ tail (n / 64) := by
    split
    · rw [UInt8.le_iff_toNat_le, toNat_tail]
      change 0xA0 ≤ _
      omega
    · exact le_tail _
  have high : tail (n / 64) ≤ (if n / 4096 = 0xD then 0x9F else 0xBF) := by
    split
    · rw [UInt8.le_iff_toNat_le, toNat_tail]
      change _ ≤ 0x9F
      omega
    · exact tail_le _
  rw [head, run_opens (lead_three (by omega)), run_inner low high,
    run_last (le_tail n) (tail_le n), value]

theorem run_four {n : Nat} (least : 0x10000 ≤ n) (most : n < 0x110000) (rest : List UInt8) :
    run .idle (UInt8.ofNat (n / 262144 % 8 + 0xF0) :: tail (n / 4096) :: tail (n / 64) ::
        tail n :: rest) =
      Char.ofNat n :: run .idle rest := by
  have head : n / 262144 % 8 = n / 262144 := Nat.mod_eq_of_lt (by omega)
  have value : ((n / 262144 * 64 + n / 4096 % 64) * 64 + n / 64 % 64) * 64 + n % 64 = n := by omega
  have low : (if n / 262144 = 0 then 0x90 else 0x80) ≤ tail (n / 4096) := by
    split
    · rw [UInt8.le_iff_toNat_le, toNat_tail]
      change 0x90 ≤ _
      omega
    · exact le_tail _
  have high : tail (n / 4096) ≤ (if n / 262144 = 4 then 0x8F else 0xBF) := by
    split
    · rw [UInt8.le_iff_toNat_le, toNat_tail]
      change _ ≤ 0x8F
      omega
    · exact tail_le _
  rw [head, run_opens (lead_four (by omega)), run_inner low high,
    run_inner (le_tail _) (tail_le _), run_last (le_tail n) (tail_le n), value]

theorem utf8EncodeChar_eq (c : Char) :
    String.utf8EncodeChar c =
      if c.toNat ≤ 0x7F then [UInt8.ofNat c.toNat]
      else if c.toNat ≤ 0x7FF then [UInt8.ofNat (c.toNat / 64 % 0x20 + 0xC0), tail c.toNat]
      else if c.toNat ≤ 0xFFFF then
        [UInt8.ofNat (c.toNat / 4096 % 0x10 + 0xE0), tail (c.toNat / 64), tail c.toNat]
      else
        [UInt8.ofNat (c.toNat / 262144 % 8 + 0xF0), tail (c.toNat / 4096), tail (c.toNat / 64),
          tail c.toNat] := rfl

theorem utf8EncodeChar_ne_nil (c : Char) : String.utf8EncodeChar c ≠ [] := by
  rw [utf8EncodeChar_eq]
  repeat' split
  all_goals exact List.cons_ne_nil _ _

/-- A character is read from the bytes that encode it, whatever comes after them. -/
theorem run_encoded (c : Char) (rest : List UInt8) :
    run .idle (String.utf8EncodeChar c ++ rest) = c :: run .idle rest := by
  have whole : Char.ofNat c.toNat = c := Char.ofNat_toNat c
  have valid : c.toNat < 0xD800 ∨ 0xDFFF < c.toNat ∧ c.toNat < 0x110000 := c.valid
  rw [utf8EncodeChar_eq]
  generalize c.toNat = n at whole valid
  rw [← whole]
  split
  · exact run_one (by omega) rest
  split
  · exact run_two (by omega) (by omega) rest
  split
  · exact run_three (by omega) (by omega) (by omega) rest
  · exact run_four (by omega) (by omega) rest

/-- A byte below 0x80 in the encoding of a character is the character. -/
theorem eq_of_mem_encoded {c : Char} {b : UInt8} (member : b ∈ String.utf8EncodeChar c)
    (small : b < 0x80) : Char.ofNat b.toNat = c := by
  have bound : b.toNat < 0x80 := UInt8.lt_iff_toNat_lt.mp small
  have inner (n : Nat) : b ≠ tail n := by
    rintro rfl
    exact absurd (UInt8.le_iff_toNat_le.mp (le_tail n)) (Nat.not_le.mpr bound)
  have outer {n : Nat} (least : 0x80 ≤ n) (most : n < 0x100) : b ≠ UInt8.ofNat n := by
    rintro rfl
    rw [UInt8.toNat_ofNat', Nat.mod_eq_of_lt most] at bound
    omega
  rw [utf8EncodeChar_eq] at member
  split at member
  next one =>
    rw [List.mem_singleton.mp member, UInt8.toNat_ofNat', Nat.mod_eq_of_lt (by omega)]
    exact Char.ofNat_toNat c
  -- a longer encoding is a leading byte, which `outer` is for, and bytes with six bits each
  · repeat' split at member
    all_goals
      simp only [List.mem_cons, List.not_mem_nil, inner, or_false] at member
      exact absurd member (outer (by omega) (by omega))

end Utf8

/-- Reading what was encoded gives it back. -/
theorem decodeLossy_encode (cs : List Char) : decodeLossy (encode cs) = cs := by
  induction cs with
  | nil => rfl
  | cons c cs ih =>
    rw [decodeLossy, encode, List.flatMap_cons, Utf8.run_encoded]
    exact congrArg (List.cons c) ih

/-- An encoding holds a byte below 0x80 only where the text has the character of that number. -/
theorem mem_of_mem_encode {cs : List Char} {b : UInt8} (member : b ∈ encode cs)
    (small : b < 0x80) : Char.ofNat b.toNat ∈ cs := by
  obtain ⟨c, among, byte⟩ := List.mem_flatMap.mp member
  rw [Utf8.eq_of_mem_encoded byte small]
  exact among

/-- The bytes that encode a text are those from which the text can be read. -/
theorem decode?_eq_some_iff (bytes : List UInt8) (cs : List Char) :
    decode? bytes = some cs ↔ encode cs = bytes := by
  rw [decode?]
  constructor
  · intro read
    split at read
    next kept => exact Option.some.inj read ▸ kept
    next => exact absurd read.symm (Option.some_ne_none cs)
  · rintro rfl
    rw [decodeLossy_encode]
    exact if_pos rfl

theorem encodedLength_ofNat {n : Nat} (byte : n < 0x100) : encodedLength (UInt8.ofNat n) =
    if n < 0x80 then 1 else if n < 0xE0 then 2 else if n < 0xF0 then 3 else 4 := by
  have value : (UInt8.ofNat n).toNat = n := by
    rw [UInt8.toNat_ofNat', Nat.mod_eq_of_lt byte]
  simp only [encodedLength, UInt8.lt_iff_toNat_lt, value]
  rfl

/-- The leading byte of a character tells how many bytes encode it. -/
theorem encodedLength_head (c : Char) :
    ∃ b bs, String.utf8EncodeChar c = b :: bs ∧ encodedLength b = bs.length + 1 := by
  rw [Utf8.utf8EncodeChar_eq]
  generalize c.toNat = n
  split
  next one =>
    refine ⟨_, _, rfl, ?_⟩
    rw [encodedLength_ofNat (by omega), if_pos (by omega)]
    rfl
  split
  next two =>
    refine ⟨_, _, rfl, ?_⟩
    rw [encodedLength_ofNat (by omega), if_neg (by omega), if_pos (by omega)]
    rfl
  split
  next three =>
    refine ⟨_, _, rfl, ?_⟩
    rw [encodedLength_ofNat (by omega), if_neg (by omega), if_neg (by omega), if_pos (by omega)]
    rfl
  next four =>
    refine ⟨_, _, rfl, ?_⟩
    rw [encodedLength_ofNat (by omega), if_neg (by omega), if_neg (by omega), if_neg (by omega)]
    rfl

theorem unitsAfter_skip (skipped rest : List UInt8) :
    unitsAfter skipped.length (skipped ++ rest) = unitsAfter 0 rest := by
  induction skipped with
  | nil => rfl
  | cons b bs ih => exact ih

theorem units_encode (cs : List Char) : units (encode cs) = cs.map some := by
  induction cs with
  | nil => rfl
  | cons c cs ih =>
    obtain ⟨b, bs, bytes, length⟩ := encodedLength_head c
    have whole : decode? ((b :: (bs ++ encode cs)).take (encodedLength b)) = some [c] := by
      rw [length, List.take_succ_cons, List.take_left, decode?_eq_some_iff, ← bytes]
      exact List.flatMap_singleton ..
    have encoded : encode (c :: cs) = b :: (bs ++ encode cs) := by
      rw [encode, List.flatMap_cons, bytes]
      rfl
    rw [units, encoded, unitsAfter, whole]
    simp only [length, Nat.add_sub_cancel, unitsAfter_skip]
    exact congrArg _ ih

end Text

end RemoteSurface
