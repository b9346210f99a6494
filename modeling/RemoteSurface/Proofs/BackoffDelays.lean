import Mathlib.Algebra.Group.Nat.Defs
import Mathlib.Data.List.DropRight
import RemoteSurface.Proofs.LoadedSettings
/-!
Delays of a backoff. Whatever is asked of a backoff, the delay that it gives depends on how often it
was asked since it last started over: it is the first delay, doubled once for each time before, up
to the cap. The doubling stops at the greatest factor and the counting at the greatest count, so a
cap beyond that factor is never reached, and a limit at that count never spent.
-/
namespace RemoteSurface

namespace Backoff

theorem factor_eq (attempt : Nat) : factor attempt = min (2 ^ (attempt - 1)) countLimit := by
  have limit : countLimit = 2 ^ 32 - 1 := rfl
  unfold factor
  split
  next early =>
    have below : 2 ^ (attempt - 1) ≤ 2 ^ 31 := Nat.pow_le_pow_right Nat.two_pos (by omega)
    have small : 2 ^ (attempt - 1) ≤ countLimit := by omega
    exact (Nat.min_eq_left small).symm
  next late =>
    have above : 2 ^ 32 ≤ 2 ^ (attempt - 1) := Nat.pow_le_pow_right Nat.two_pos (by omega)
    have great : countLimit ≤ 2 ^ (attempt - 1) := by omega
    exact (Nat.min_eq_right great).symm

theorem factor_pos (attempt : Nat) : 0 < factor attempt := by
  rw [factor_eq]
  exact Nat.lt_min.mpr ⟨Nat.two_pow_pos _, by decide⟩

theorem factor_le (attempt : Nat) : factor attempt ≤ countLimit := by
  rw [factor_eq]
  exact Nat.min_le_right _ _

theorem factor_mono {m n : Nat} (before : m ≤ n) : factor m ≤ factor n := by
  have doubled : 2 ^ (m - 1) ≤ 2 ^ (n - 1) :=
    Nat.pow_le_pow_right Nat.two_pos (Nat.sub_le_sub_right before 1)
  rw [factor_eq, factor_eq]
  omega

/-- The factor has stopped growing long before the count does. -/
theorem factor_min (attempt : Nat) : factor (min attempt countLimit) = factor attempt := by
  rcases Nat.le_total attempt countLimit with counted | beyond
  · rw [Nat.min_eq_left counted]
  · have limit : countLimit = 2 ^ 32 - 1 := rfl
    rw [Nat.min_eq_right beyond, factor, factor, if_neg (by omega), if_neg (by omega)]

/-- The delay before an attempt, whether or not the attempt is within the limit. -/
def delay (b : Backoff) (attempt : Nat) : Nat :=
  min (min (b.base * factor attempt) longest) b.cap

theorem next_eq (b : Backoff) :
    b.next =
      ({ b with attempts := min (b.attempts + 1) countLimit },
        if isSpent b.limit (min (b.attempts + 1) countLimit) then none
        else some (b.delay (min (b.attempts + 1) countLimit))) := rfl

theorem delay_min (b : Backoff) (attempt : Nat) :
    b.delay (min attempt countLimit) = b.delay attempt := by
  rw [delay, factor_min, delay]

theorem next_eq_some {b after : Backoff} {d : Nat} (given : b.next = (after, some d)) :
    after = { b with attempts := min (b.attempts + 1) countLimit } ∧
      d = b.delay (b.attempts + 1) := by
  rw [next_eq] at given
  obtain ⟨moved, told⟩ := Prod.mk.inj given
  split at told
  · cases told
  · rw [delay_min] at told
    exact ⟨moved.symm, (Option.some.inj told).symm⟩

theorem delay_mono (b : Backoff) {m n : Nat} (before : m ≤ n) : b.delay m ≤ b.delay n := by
  have longer : b.base * factor m ≤ b.base * factor n :=
    Nat.mul_le_mul_left b.base (factor_mono before)
  unfold delay
  omega

theorem delay_le_cap (b : Backoff) (attempt : Nat) : b.delay attempt ≤ b.cap :=
  Nat.min_le_right _ _

theorem base_le_delay {b : Backoff} (inside : b.base ≤ b.cap) (fits : b.cap ≤ longest)
    (attempt : Nat) : b.base ≤ b.delay attempt := by
  have once : b.base ≤ b.base * factor attempt := Nat.le_mul_of_pos_right _ (factor_pos attempt)
  unfold delay
  omega

/-- Under a cap that is a time, the longest time there is cuts nothing off. -/
theorem delay_eq {b : Backoff} (fits : b.cap ≤ longest) (attempt : Nat) :
    b.delay attempt = min (b.base * min (2 ^ (attempt - 1)) countLimit) b.cap := by
  rw [delay, factor_eq]
  omega

/-- Doubling without end gives another delay only where the factor has stopped and the cap is beyond
it. -/
theorem capped_eq_iff {base cap attempt : Nat} (some : 0 < base) :
    min (base * min (2 ^ (attempt - 1)) countLimit) cap = min (base * 2 ^ (attempt - 1)) cap ↔
      attempt ≤ 32 ∨ cap ≤ base * countLimit := by
  have limit : countLimit = 2 ^ 32 - 1 := rfl
  by_cases early : attempt ≤ 32
  · have small : 2 ^ (attempt - 1) ≤ 2 ^ 31 := Nat.pow_le_pow_right Nat.two_pos (by omega)
    rw [Nat.min_eq_left (by omega : 2 ^ (attempt - 1) ≤ countLimit)]
    exact iff_of_true rfl (Or.inl early)
  · have great : 2 ^ 32 ≤ 2 ^ (attempt - 1) := Nat.pow_le_pow_right Nat.two_pos (by omega)
    have more : base * countLimit < base * 2 ^ (attempt - 1) :=
      Nat.mul_lt_mul_of_pos_left (by omega) some
    rw [Nat.min_eq_right (by omega : countLimit ≤ 2 ^ (attempt - 1)), or_iff_right early]
    omega

/-- What is asked of a backoff: the delay before another attempt, or to start over. -/
inductive Call where
  | next
  | reset
deriving DecidableEq

def call (b : Backoff) : Call → Backoff
  | .next => b.next.1
  | .reset => b.reset

/-- How many attempts were asked for since the last start, at the end of some calls. -/
def sinceReset (calls : List Call) : Nat := (calls.rtakeWhile fun c => c = .next).length

theorem sinceReset_concat (calls : List Call) (c : Call) :
    sinceReset (calls ++ [c]) = if c = .next then sinceReset calls + 1 else 0 := by
  rw [sinceReset, List.rtakeWhile_concat]
  cases c with
  | next => exact List.length_append
  | reset => rfl

theorem sinceReset_replicate (n : Nat) : sinceReset (List.replicate n .next) = n := by
  induction n with
  | zero => rfl
  | succ n ih => rw [List.replicate_succ', sinceReset_concat, if_pos rfl, ih]

/-- Calls leave a trace in the count only, as far as it goes. -/
theorem foldl_call {b : Backoff} (fresh : b.attempts = 0) (calls : List Call) :
    calls.foldl call b = { b with attempts := min (sinceReset calls) countLimit } := by
  induction calls using List.reverseRecOn with
  | nil =>
    have none : min (sinceReset []) countLimit = b.attempts := fresh.symm
    rw [none]
    rfl
  | append_singleton calls c ih =>
    rw [List.foldl_append, List.foldl_cons, List.foldl_nil, ih, sinceReset_concat]
    cases c with
    | reset => rfl
    | next =>
      have counted : min (min (sinceReset calls) countLimit + 1) countLimit =
          min (sinceReset calls + 1) countLimit := by omega
      rw [if_pos rfl, call, next_eq, counted]

/-- The answer to the next call after some, by how many came since the last start. -/
theorem next_foldl_call {b : Backoff} (fresh : b.attempts = 0) (calls : List Call) :
    (calls.foldl call b).next =
      ({ b with attempts := min (sinceReset calls + 1) countLimit },
        if isSpent b.limit (min (sinceReset calls + 1) countLimit) then none
        else some (b.delay (sinceReset calls + 1))) := by
  have counted : min (min (sinceReset calls) countLimit + 1) countLimit =
      min (sinceReset calls + 1) countLimit := by omega
  rw [foldl_call fresh, next_eq, counted, delay_min]
  rfl

end Backoff

namespace StreamSettings

theorem isSpent_iff (s : StreamSettings) (attempt : Nat) :
    Backoff.isSpent s.backoff.limit attempt = true ↔
      0 < s.maxReconnectAttempts ∧ s.maxReconnectAttempts < attempt := by
  rw [backoff, reconnectLimit]
  split
  next limited => simp [Backoff.isSpent, limited]
  next unlimited => simp [Backoff.isSpent, unlimited]

theorem InWords.cap_le_longest {s : StreamSettings} (words : s.InWords) :
    s.backoff.cap ≤ Backoff.longest := by
  have room : Nat.pow 2 64 ≤ Backoff.longest := by decide
  exact Nat.le_trans (Nat.le_of_lt words.cap) room

end StreamSettings

namespace Settings

open Backoff (Call countLimit factor longest sinceReset)

/-- Of settings that are without fault and fit their words, the k-th call since the backoff last
started over finds the limit spent if the limit is one that can be counted beyond, and k is beyond
it. Any other call gives the first delay, doubled k - 1 times but at most to the greatest factor, up
to the cap; so it gives the doubled delay unless more than thirty-two calls and a cap beyond the
greatest factor show the difference. The count and the factor are positive and fit a word, and a
product that is no time any more is beyond the cap. -/
theorem delays_double_up_to_the_cap {s : Settings} (valid : s.isValid = true)
    (words : s.stream.InWords) (calls : List Call) :
    let b := calls.foldl Backoff.call s.stream.backoff
    let k := sinceReset calls + 1
    let limit := s.stream.maxReconnectAttempts
    let base := s.stream.retryBackoffBaseMs
    let cap := s.stream.retryBackoffMaxMs
    b.next.2 =
        (if 0 < limit ∧ limit < countLimit ∧ limit < k then none
          else some (min (base * min (2 ^ (k - 1)) countLimit) cap)) ∧
      (min (base * min (2 ^ (k - 1)) countLimit) cap = min (base * 2 ^ (k - 1)) cap ↔
        k ≤ 32 ∨ cap ≤ base * countLimit) ∧
      b.next.1.attempts = min k countLimit ∧
      (0 < b.next.1.attempts ∧ b.next.1.attempts < 2 ^ 32) ∧
      (0 < factor b.next.1.attempts ∧ factor b.next.1.attempts < 2 ^ 32) ∧
      (base * factor b.next.1.attempts ≤ longest ∨ cap < base * factor b.next.1.attempts) := by
  intro b k limit base cap
  obtain ⟨-, -, some, -⟩ := s.isValid_iff.mp valid
  have word : countLimit = 2 ^ 32 - 1 := rfl
  have room : cap ≤ longest := words.cap_le_longest
  have answer : b.next = _ := Backoff.next_foldl_call rfl calls
  have counted : b.next.1.attempts = min k countLimit := by rw [answer]
  refine ⟨?_, Backoff.capped_eq_iff some, counted, by omega, ?_, by omega⟩
  · rw [answer, Backoff.delay_eq words.cap_le_longest]
    have spent : Backoff.isSpent s.stream.backoff.limit (min k countLimit) = true ↔
        0 < limit ∧ limit < countLimit ∧ limit < k := by
      rw [s.stream.isSpent_iff, Nat.lt_min, and_comm (a := limit < k)]
    exact if_congr spent rfl rfl
  · have small := Backoff.factor_le b.next.1.attempts
    exact ⟨Backoff.factor_pos _, by omega⟩

/-- Settings with a limit, and a cap that is not among the doubled delays. -/
def threeReconnects : Settings :=
  { stream := { retryBackoffBaseMs := 3000, maxReconnectAttempts := 3 } }

theorem third_delay_is_capped_and_fourth_is_none :
    threeReconnects.isValid = true ∧ threeReconnects.stream.InWords ∧
      ([.next, .reset, .next, .next].foldl Backoff.call threeReconnects.stream.backoff).next.2 =
        some 10000 ∧
      ([.reset, .next, .next, .next].foldl Backoff.call threeReconnects.stream.backoff).next.2 =
        none := by
  have valid : threeReconnects.isValid = true := by decide
  have words : threeReconnects.stream.InWords := by constructor <;> decide
  have third := delays_double_up_to_the_cap valid words [.next, .reset, .next, .next]
  have fourth := delays_double_up_to_the_cap valid words [.reset, .next, .next, .next]
  exact ⟨valid, words, third.1, fourth.1⟩

/-- Settings with a cap beyond the greatest factor, and settings with the greatest limit. -/
def farCap : Settings :=
  { stream := { retryBackoffBaseMs := 1, retryBackoffMaxMs := Nat.pow 2 40 } }

def greatestLimit : Settings := { stream := { maxReconnectAttempts := Nat.pow 2 32 - 1 } }

/-- The thirty-third delay is not twice the one before, although the cap is far; and the call after
as many as the greatest limit does not find it spent. -/
theorem doubling_and_counting_end :
    farCap.isValid = true ∧ farCap.stream.InWords ∧
      ((List.replicate 32 .next).foldl Backoff.call farCap.stream.backoff).next.2 =
        some (2 ^ 32 - 1) ∧
      min (farCap.stream.retryBackoffBaseMs * 2 ^ 32) farCap.stream.retryBackoffMaxMs = 2 ^ 32 ∧
      greatestLimit.isValid = true ∧ greatestLimit.stream.InWords ∧
      ((List.replicate (2 ^ 32 - 1) .next).foldl Backoff.call
        greatestLimit.stream.backoff).next.2 = some 10000 := by
  refine ⟨by decide, by constructor <;> decide, ?_, by decide, by decide,
    by constructor <;> decide, ?_⟩
  · rw [Backoff.next_foldl_call rfl, Backoff.sinceReset_replicate]
    decide
  · rw [Backoff.next_foldl_call rfl, Backoff.sinceReset_replicate]
    decide

end Settings

end RemoteSurface
