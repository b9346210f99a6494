import Mathlib.Algebra.Order.Field.Power
import Mathlib.Algebra.Order.Field.Rat
import Mathlib.Data.Rat.Cast.Order
import Mathlib.Tactic.FieldSimp
import Mathlib.Tactic.Linarith
import Mathlib.Tactic.Positivity
import Mathlib.Tactic.Ring
import RemoteSurface.Number.Written
/-!
The nearest double. Around each double lie the magnitudes that round to it: between it and the
doubles next to it they reach half the way, the ends included where the significand is even. A
quotient with such a magnitude, whatever its terms, is rounded to that double. The one case apart is
a quotient that lies below the power of two it rounds to: its scale is the smaller one, and its
significand overflows into the greater.
-/
namespace RemoteSurface

/-- The magnitude that a decimal writes. -/
def Decimal.value (d : Decimal) : ℚ := d.units * 10 ^ d.power

namespace Double

variable (x : Double)

theorem zpow_mul_pow_neg {b : ℚ} (h : b ≠ 0) (n : ℤ) : b ^ n * b ^ (-n).toNat = b ^ n.toNat := by
  obtain ⟨k, rfl | rfl⟩ := n.eq_nat_or_neg
  · simp
  · simp [h]

/-- The lower end of the magnitudes that round to a double, in quarters of its last place. -/
def lowQuarters : ℕ :=
  4 * x.significand - (if x.fractionBits = 0 ∧ 1 < x.exponentBits then 1 else 2)

/-- The upper end of the magnitudes that round to a double, in quarters of its last place. -/
def highQuarters : ℕ := 4 * x.significand + 2

/-- A magnitude rounds to a double: it lies between the ends, and on an end only where the
significand is even. -/
structure Near (x : Double) (v : ℚ) : Prop where
  low : x.lowQuarters / 4 * 2 ^ x.scale ≤ v
  high : v ≤ x.highQuarters / 4 * 2 ^ x.scale
  odd : x.significand % 2 ≠ 0 →
    x.lowQuarters / 4 * 2 ^ x.scale ≠ v ∧ v ≠ x.highQuarters / 4 * 2 ^ x.scale

/-- A quotient rounds to a whole number from which it is no further than a half, and which is even
if it is a half away. -/
theorem roundHalfEven_eq {num den k : ℕ} (low : 2 * k * den ≤ 2 * num + den)
    (high : 2 * num ≤ 2 * k * den + den)
    (odd : k % 2 ≠ 0 → 2 * k * den ≠ 2 * num + den ∧ 2 * num ≠ 2 * k * den + den)
    (positive : 0 < den) : roundHalfEven num den = k := by
  have parts := Nat.div_add_mod num den
  have rest := Nat.mod_lt num positive
  have notBelow : k ≤ num / den + 1 := by
    by_contra above
    have apart : (num / den + 2) * den ≤ k * den := Nat.mul_le_mul_right den (by omega)
    have expand : (num / den + 2) * den = den * (num / den) + 2 * den := by ring
    have double : 2 * k * den = 2 * (k * den) := by ring
    omega
  have notAbove : num / den ≤ k := by
    by_contra below
    have apart : (k + 1) * den ≤ num / den * den := Nat.mul_le_mul_right den (by omega)
    have expand : (k + 1) * den = k * den + den := by ring
    have turn : num / den * den = den * (num / den) := by ring
    have double : 2 * k * den = 2 * (k * den) := by ring
    omega
  rw [roundHalfEven]
  generalize num / den = floor at parts notBelow notAbove ⊢
  generalize num % den = left at parts rest ⊢
  -- Only the floor and the number after it are so near, and the remainder tells them apart.
  have cases : k = floor ∨ k = floor + 1 := by omega
  rcases cases with same | next
  · subst same
    have double : 2 * k * den = 2 * (den * k) := by ring
    split
    · rfl
    · split
      · omega
      · omega
  · subst next
    have double : 2 * (floor + 1) * den = 2 * (den * floor) + 2 * den := by ring
    split
    · omega
    · split
      · rfl
      · omega

/-- The bits of a double below its sign. -/
def magnitude : ℕ := x.exponentBits * 2 ^ 52 + x.fractionBits

theorem exponentBits_lt : x.exponentBits < 2 ^ 11 := Nat.mod_lt _ (by decide)

theorem fractionBits_lt : x.fractionBits < 2 ^ 52 := Nat.mod_lt _ (by decide)

theorem ofMagnitude_magnitude : ofMagnitude x.isNegative x.magnitude = x := by
  have size : x.bits.toNat < 2 ^ 64 := x.bits.toNat_lt
  have whole : (if x.isNegative then Nat.pow 2 63 else 0) + x.magnitude = x.bits.toNat := by
    simp only [isNegative, magnitude, exponentBits, fractionBits, Nat.pow_eq, decide_eq_true_eq]
    split <;> omega
  rw [ofMagnitude, whole]
  ext
  simp

theorem magnitude_eq : x.magnitude = (x.scale + 1074).toNat * 2 ^ 52 + x.significand := by
  have small := x.exponentBits_lt
  rw [magnitude, scale, significand]
  simp only [Nat.pow_eq]
  split
  next none => simp [none]
  next some => omega

theorem significand_lt : x.significand < 2 ^ 53 := by
  have small := x.fractionBits_lt
  rw [significand]
  simp only [Nat.pow_eq]
  split <;> omega

theorem two_zpow_log2_le {n : ℕ} (positive : 0 < n) : (2 : ℚ) ^ (n.log2 : ℤ) ≤ n := by
  rw [zpow_natCast]
  exact_mod_cast Nat.log2_self_le positive.ne'

theorem lt_two_zpow_log2 (n : ℕ) : (n : ℚ) < 2 ^ ((n.log2 : ℤ) + 1) := by
  rw [← Nat.cast_succ, zpow_natCast]
  exact_mod_cast Nat.lt_log2_self

/-- The scale of a quotient: its leading bit is bit fifty-two of the significand, unless the
quotient is too small for that. -/
theorem scaleOf_spec {num den : ℕ} (above : 0 < num) (below : 0 < den) :
    ∃ s : ℤ, scaleOf num den = max (-1074) s ∧
      (2 : ℚ) ^ (52 + s) ≤ num / den ∧ (num / den : ℚ) < 2 ^ (53 + s) := by
  have positive : (0 : ℚ) < den := by exact_mod_cast below
  rw [scaleOf]
  generalize guessed : (num.log2 : ℤ) - (den.log2 : ℤ) - 52 = guess
  have atLeast : (2 : ℚ) ^ (51 + guess) ≤ num / den := by
    rw [le_div_iff₀ positive]
    calc (2 : ℚ) ^ (51 + guess) * den ≤ 2 ^ (51 + guess) * 2 ^ ((den.log2 : ℤ) + 1) :=
          mul_le_mul_of_nonneg_left (lt_two_zpow_log2 den).le (by positivity)
      _ = 2 ^ (num.log2 : ℤ) := by
          rw [← zpow_add₀ two_ne_zero]
          congr 1
          omega
      _ ≤ num := two_zpow_log2_le above
  have atMost : (num / den : ℚ) < 2 ^ (53 + guess) := by
    rw [div_lt_iff₀ positive]
    calc (num : ℚ) < 2 ^ ((num.log2 : ℤ) + 1) := lt_two_zpow_log2 num
      _ = 2 ^ (53 + guess) * 2 ^ (den.log2 : ℤ) := by
          rw [← zpow_add₀ two_ne_zero]
          congr 1
          omega
      _ ≤ 2 ^ (53 + guess) * den :=
          mul_le_mul_of_nonneg_left (two_zpow_log2_le below) (by positivity)
  have low : num * Nat.pow 2 (-guess).toNat < Nat.pow 2 52 * (den * Nat.pow 2 guess.toNat) ↔
      (num / den : ℚ) < 2 ^ (52 + guess) := by
    have scaled : (0 : ℚ) < 2 ^ (-guess).toNat := by positivity
    have twos := zpow_mul_pow_neg (b := 2) (by norm_num) guess
    have left : ((num * Nat.pow 2 (-guess).toNat : ℕ) : ℚ) = num * 2 ^ (-guess).toNat := by
      simp
    have right : ((Nat.pow 2 52 * (den * Nat.pow 2 guess.toNat) : ℕ) : ℚ) =
        2 ^ (52 + guess) * den * 2 ^ (-guess).toNat := by
      simp only [Nat.pow_eq]
      push_cast
      rw [← twos, zpow_add₀ two_ne_zero]
      norm_num
      ring
    rw [div_lt_iff₀ positive, ← mul_lt_mul_iff_left₀ scaled, ← Nat.cast_lt (α := ℚ), left, right]
  by_cases less : (num / den : ℚ) < 2 ^ (52 + guess)
  · refine ⟨guess - 1, ?_, ?_, ?_⟩
    · rw [if_pos (low.mpr less)]
    · convert atLeast using 2
      ring
    · convert less using 2
      ring
  · refine ⟨guess, ?_, not_lt.mp less, atMost⟩
    rw [if_neg (mt low.mp less)]

theorem scaled_quotient {den : ℕ} (num : ℕ) (s : ℤ) (below : 0 < den) :
    ∃ c : ℚ, 0 < c ∧ ((num * Nat.pow 2 (-s).toNat : ℕ) : ℚ) = num / den * c ∧
      ((den * Nat.pow 2 s.toNat : ℕ) : ℚ) = 2 ^ s * c := by
  have nonzero : (den : ℚ) ≠ 0 := by exact_mod_cast below.ne'
  have twos := zpow_mul_pow_neg (b := 2) (by norm_num) s
  refine ⟨den * 2 ^ (-s).toNat, by positivity, ?_, ?_⟩
  · simp only [Nat.pow_eq]
    push_cast
    field_simp
  · simp only [Nat.pow_eq]
    push_cast
    rw [← twos]
    ring

/-- What is left of a quotient above its scale rounds to a whole number. -/
theorem roundHalfEven_scaled {num den k : ℕ} (s : ℤ) (below : 0 < den)
    (low : (k - 1 / 2 : ℚ) * 2 ^ s ≤ num / den) (high : (num / den : ℚ) ≤ (k + 1 / 2) * 2 ^ s)
    (odd : k % 2 ≠ 0 →
      (k - 1 / 2 : ℚ) * 2 ^ s ≠ num / den ∧ (num / den : ℚ) ≠ (k + 1 / 2) * 2 ^ s) :
    roundHalfEven (num * Nat.pow 2 (-s).toNat) (den * Nat.pow 2 s.toNat) = k := by
  obtain ⟨c, positive, upper, lower⟩ := scaled_quotient num s below
  generalize num * Nat.pow 2 (-s).toNat = n at upper ⊢
  generalize den * Nat.pow 2 s.toNat = d at lower ⊢
  generalize (num / den : ℚ) = q at *
  have pushed : ∀ t : ℚ, t * 2 ^ s * c = t * d := by
    intro t
    rw [lower]
    ring
  have left := mul_le_mul_of_nonneg_right low positive.le
  have right := mul_le_mul_of_nonneg_right high positive.le
  rw [pushed, ← upper] at left right
  apply roundHalfEven_eq
  · have cleared : (2 * k * d : ℚ) ≤ 2 * n + d := by linarith
    exact_mod_cast cleared
  · have cleared : (2 * n : ℚ) ≤ 2 * k * d + d := by linarith
    exact_mod_cast cleared
  · intro uneven
    obtain ⟨notLow, notHigh⟩ := odd uneven
    constructor
    · intro same
      have cleared : (2 * k * d : ℚ) = 2 * n + d := by exact_mod_cast same
      apply notLow
      apply mul_right_cancel₀ positive.ne'
      rw [pushed, ← upper]
      linarith
    · intro same
      have cleared : (2 * n : ℚ) = 2 * k * d + d := by exact_mod_cast same
      apply notHigh
      apply mul_right_cancel₀ positive.ne'
      rw [pushed, ← upper]
      linarith
  · have cleared : (0 : ℚ) < d := by
      rw [lower]
      positivity
    exact_mod_cast cleared

theorem scale_ge : -1074 ≤ x.scale := by
  rw [scale]
  split <;> omega

theorem le_significand {x : Double} (normal : -1074 < x.scale) : 2 ^ 52 ≤ x.significand := by
  rw [scale] at normal
  rw [significand]
  simp only [Nat.pow_eq]
  split at normal <;> simp_all

/-- At a power of two above the least scale the next double below is half as far away. -/
theorem lowQuarters_of_power {x : Double} (normal : -1074 < x.scale)
    (power : x.significand = 2 ^ 52) : x.lowQuarters = 2 ^ 54 - 1 := by
  have narrow : x.fractionBits = 0 ∧ 1 < x.exponentBits := by
    rw [scale] at normal
    rw [significand] at power
    simp only [Nat.pow_eq] at power
    split at normal
    · omega
    · rename_i some
      rw [if_neg some] at power
      omega
  rw [lowQuarters, if_pos narrow, power]
  rfl

theorem le_lowQuarters : 4 * x.significand - 2 ≤ x.lowQuarters := by
  rw [lowQuarters]
  split <;> omega

/-- What is between the ends is no further from the significand than half a place. -/
theorem Near.bounds {x : Double} {v : ℚ} (near : x.Near v) (nonzero : 0 < x.significand) :
    (x.significand - 1 / 2 : ℚ) * 2 ^ x.scale ≤ v ∧ v ≤ (x.significand + 1 / 2) * 2 ^ x.scale ∧
      (x.significand % 2 ≠ 0 → (x.significand - 1 / 2 : ℚ) * 2 ^ x.scale ≠ v ∧
        v ≠ (x.significand + 1 / 2) * 2 ^ x.scale) := by
  obtain ⟨low, high, odd⟩ := near
  have size : (0 : ℚ) < 2 ^ x.scale := by positivity
  have top : (x.highQuarters / 4 : ℚ) = x.significand + 1 / 2 := by
    rw [highQuarters]
    push_cast
    ring
  have bottom : (x.significand - 1 / 2 : ℚ) ≤ x.lowQuarters / 4 := by
    have whole := x.le_lowQuarters
    have cast : (4 * x.significand : ℚ) ≤ x.lowQuarters + 2 := by
      exact_mod_cast (by omega : 4 * x.significand ≤ x.lowQuarters + 2)
    linarith
  rw [top] at high odd
  have lower := mul_le_mul_of_nonneg_right bottom size.le
  refine ⟨lower.trans low, high, fun uneven => ⟨fun same => ?_, (odd uneven).2⟩⟩
  exact (odd uneven).1 (le_antisymm low (same ▸ lower))

theorem Near.pos {x : Double} {v : ℚ} (near : x.Near v) (nonzero : 0 < x.significand) : 0 < v := by
  obtain ⟨low, -, -⟩ := near.bounds nonzero
  have one : (1 : ℚ) ≤ x.significand := by exact_mod_cast nonzero
  exact (mul_pos (by linarith) (by positivity)).trans_le low

theorem magnitude_lt {x : Double} (finite : x.isFinite) :
    x.magnitude < (Nat.pow 2 11 - 1) * Nat.pow 2 52 := by
  have few := x.exponentBits_lt
  have small := x.fractionBits_lt
  simp only [isFinite, Nat.pow_eq, bne_iff_ne] at finite
  simp only [magnitude, Nat.pow_eq]
  omega

/-- A quotient whose rounded significand and scale make the magnitude of a double is rounded to
that double. -/
theorem ofQuotient_of_magnitude {x : Double} {num den : ℕ} (finite : x.isFinite) (above : 0 < num)
    (same : (scaleOf num den + 1074).toNat * 2 ^ 52 +
      roundHalfEven (num * Nat.pow 2 (-scaleOf num den).toNat)
        (den * Nat.pow 2 (scaleOf num den).toNat) = x.magnitude) :
    ofQuotient x.isNegative num den = x := by
  have capped := (magnitude_lt finite).le
  rw [ofQuotient, if_neg above.ne']
  simp only [Nat.pow_eq] at same capped ⊢
  rw [same, min_eq_left capped]
  exact x.ofMagnitude_magnitude

theorem Near.le_scale {x : Double} {v : ℚ} {s : ℤ} (near : x.Near v) (nonzero : 0 < x.significand)
    (atLeast : (2 : ℚ) ^ (52 + s) ≤ v) : s ≤ x.scale := by
  obtain ⟨-, high, -⟩ := near.bounds nonzero
  have top : (x.significand + 1 : ℚ) ≤ 2 ^ 53 := by exact_mod_cast x.significand_lt
  have bound : (2 : ℚ) ^ (52 + s) < 2 ^ (53 + x.scale) := by
    calc (2 : ℚ) ^ (52 + s) ≤ v := atLeast
      _ ≤ (x.significand + 1 / 2) * 2 ^ x.scale := high
      _ < 2 ^ 53 * 2 ^ x.scale := mul_lt_mul_of_pos_right (by linarith) (by positivity)
      _ = 2 ^ (53 + x.scale) := by
          rw [zpow_add₀ two_ne_zero]
          norm_cast
  have exponents := (zpow_lt_zpow_iff_right₀ one_lt_two).mp bound
  omega

theorem Near.scale_le_succ {x : Double} {v : ℚ} {s : ℤ} (near : x.Near v)
    (normal : -1074 < x.scale) (less : v < 2 ^ (53 + s)) : x.scale ≤ s + 1 := by
  have full := le_significand normal
  have fullCast : (2 ^ 52 : ℚ) ≤ x.significand := by exact_mod_cast full
  obtain ⟨low, -, -⟩ := near.bounds (by omega)
  have bound : (2 : ℚ) ^ (51 + x.scale) < 2 ^ (53 + s) := by
    calc (2 : ℚ) ^ (51 + x.scale) = 2 ^ 51 * 2 ^ x.scale := by
          rw [zpow_add₀ two_ne_zero]
          norm_cast
      _ ≤ (x.significand - 1 / 2) * 2 ^ x.scale :=
          mul_le_mul_of_nonneg_right (by linarith) (by positivity)
      _ ≤ v := low
      _ < 2 ^ (53 + s) := less
  have exponents := (zpow_lt_zpow_iff_right₀ one_lt_two).mp bound
  omega

/-- A double whose scale is greater than that of a magnitude near it is a power of two. -/
theorem Near.significand_of_lt {x : Double} {v : ℚ} {s : ℤ} (near : x.Near v)
    (normal : -1074 < x.scale) (next : x.scale = s + 1) (less : v < 2 ^ 53 * 2 ^ s) :
    x.significand = 2 ^ 52 := by
  have full := le_significand normal
  obtain ⟨low, -, -⟩ := near.bounds (by omega)
  have size : (0 : ℚ) < 2 ^ x.scale := by positivity
  by_contra other
  have more : (2 ^ 52 + 1 : ℚ) ≤ x.significand := by
    exact_mod_cast (by omega : 2 ^ 52 + 1 ≤ x.significand)
  have excess := mul_le_mul_of_nonneg_right more size.le
  rw [next, zpow_add_one₀ two_ne_zero] at low excess size
  linarith

/-- A quotient that is near a double is rounded to it. -/
theorem ofQuotient_of_near {x : Double} {num den : ℕ} (finite : x.isFinite) (below : 0 < den)
    (nonzero : 0 < x.significand) (near : x.Near (num / den)) :
    ofQuotient x.isNegative num den = x := by
  obtain ⟨low, high, odd⟩ := near.bounds nonzero
  have above : 0 < num := by
    apply Nat.pos_of_ne_zero
    intro zero
    have some := near.pos nonzero
    simp [zero] at some
  obtain ⟨s, scaled, atLeast, less⟩ := scaleOf_spec above below
  have notAbove := near.le_scale nonzero atLeast
  have least := x.scale_ge
  by_cases together : max (-1074) s = x.scale
  · apply ofQuotient_of_magnitude finite above
    rw [scaled, together, roundHalfEven_scaled x.scale below low high odd, x.magnitude_eq]
  · -- The quotient is below the power of two that it rounds to.
    have normal : -1074 < x.scale := by omega
    have notBelow := near.scale_le_succ normal less
    have next : x.scale = s + 1 := by omega
    have under : (num / den : ℚ) < 2 ^ 53 * 2 ^ s := by
      rw [zpow_add₀ two_ne_zero] at less
      exact_mod_cast less
    have power := near.significand_of_lt normal next under
    have lower : ((2 ^ 53 : ℕ) - 1 / 2 : ℚ) * 2 ^ s ≤ num / den := by
      have narrow := near.low
      rw [lowQuarters_of_power normal power, next, zpow_add_one₀ two_ne_zero] at narrow
      push_cast at narrow ⊢
      linarith
    have upper : (num / den : ℚ) ≤ ((2 ^ 53 : ℕ) + 1 / 2) * 2 ^ s := by
      have place : (0 : ℚ) < 2 ^ s := by positivity
      push_cast
      linarith
    have rounded := roundHalfEven_scaled s below lower upper fun uneven => absurd rfl uneven
    apply ofQuotient_of_magnitude finite above
    rw [scaled, max_eq_right (by omega), rounded, x.magnitude_eq, power, next]
    omega

theorem Near.units_pos {x : Double} {d : Decimal} (near : x.Near d.value)
    (nonzero : 0 < x.significand) : 0 < d.units := by
  apply Nat.pos_of_ne_zero
  intro zero
  have some := near.pos nonzero
  simp [Decimal.value, zero] at some

theorem roundHalfEven_le (num den : ℕ) : roundHalfEven num den ≤ num / den + 1 := by
  rw [roundHalfEven]
  split
  · omega
  · split <;> omega

theorem isFinite_ofMagnitude (negative : Bool) {magnitude : ℕ}
    (less : magnitude < (Nat.pow 2 11 - 1) * Nat.pow 2 52) :
    (ofMagnitude negative magnitude).isFinite := by
  simp only [Nat.pow_eq] at less
  rw [isFinite, exponentBits, ofMagnitude, bne_iff_ne]
  simp only [UInt64.toNat_ofNat', Nat.pow_eq]
  cases negative
  all_goals
    simp only [Bool.false_eq_true, if_true, if_false]
    omega

theorem isFinite_ofQuotient (negative : Bool) {num den : ℕ} (below : 0 < den)
    (range : (num / den : ℚ) < 2 ^ 1023) : (ofQuotient negative num den).isFinite := by
  rw [ofQuotient]
  split
  next => exact isFinite_ofMagnitude negative (by decide)
  next some =>
    obtain ⟨s, scaled, atLeast, less⟩ := scaleOf_spec (Nat.pos_of_ne_zero some) below
    have bounded : s ≤ 970 := by
      have powers : (2 : ℚ) ^ (52 + s) < 2 ^ (1023 : ℤ) := atLeast.trans_lt (by exact_mod_cast range)
      have exponents := (zpow_lt_zpow_iff_right₀ one_lt_two).mp powers
      omega
    rw [scaled]
    obtain ⟨c, positive, upper, lower⟩ := scaled_quotient num (max (-1074) s) below
    have rounded : roundHalfEven (num * Nat.pow 2 (-max (-1074) s).toNat)
        (den * Nat.pow 2 (max (-1074) s).toNat) ≤ 2 ^ 53 := by
      have quotient : (num / den : ℚ) < 2 ^ 53 * 2 ^ max (-1074) s := by
        refine less.trans_le ?_
        rw [zpow_add₀ two_ne_zero, zpow_ofNat]
        have grows := zpow_le_zpow_right₀ (one_le_two (α := ℚ)) (le_max_right (-1074) s)
        exact mul_le_mul_of_nonneg_left grows (by positivity)
      generalize num * Nat.pow 2 (-max (-1074) s).toNat = n at upper ⊢
      generalize den * Nat.pow 2 (max (-1074) s).toNat = d at lower ⊢
      have parts : (n : ℚ) < 2 ^ 53 * d := by
        rw [upper, lower, ← mul_assoc]
        exact mul_lt_mul_of_pos_right quotient positive
      have cleared : n < d * 2 ^ 53 := by
        rw [mul_comm]
        exact_mod_cast parts
      have atMost := roundHalfEven_le n d
      have floor := Nat.div_lt_of_lt_mul cleared
      omega
    apply isFinite_ofMagnitude
    apply (min_le_left _ _).trans_lt
    simp only [Nat.pow_eq] at rounded ⊢
    omega

theorem isFinite_ofInt {n : ℤ} (low : -2 ^ 63 ≤ n) (high : n < 2 ^ 64) : (ofInt n).isFinite := by
  apply isFinite_ofQuotient _ Nat.one_pos
  have small : n.natAbs < 2 ^ 64 := by omega
  have cast : (n.natAbs : ℚ) < 2 ^ 64 := by exact_mod_cast small
  rw [Nat.cast_one, div_one]
  exact cast.trans_le (pow_le_pow_right₀ one_le_two (by decide))

end Double

end RemoteSurface
