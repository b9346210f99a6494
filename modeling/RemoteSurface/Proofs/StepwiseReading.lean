import RemoteSurface.Number.Stepwise
import RemoteSurface.Proofs.ShortestDecimals
/-!
Decimals that are read exactly step by step. A number of fifty-three bits is a double as it is, and
so are the first twenty-two powers of ten; where a decimal is made of the two, reading it rounds
once, so it is read as the nearest double.
-/
namespace RemoteSurface

namespace Double

/-- The magnitude of a finite double. -/
def size (x : Double) : ℚ := x.significand * 2 ^ x.scale

theorem near_size {x : Double} (nonzero : 0 < x.significand) : x.Near x.size := by
  have place : (0 : ℚ) < 2 ^ x.scale := by positivity
  apply near_of_close nonzero _ le_rfl
  exact mul_lt_mul_of_pos_right (by linarith) place

section Bits

variable (negative : Bool) {magnitude : ℕ}

theorem isNegative_ofMagnitude (small : magnitude < 2 ^ 63) :
    (ofMagnitude negative magnitude).isNegative = negative := by
  simp only [isNegative, ofMagnitude, UInt64.toNat_ofNat', Nat.pow_eq]
  cases negative
  all_goals
    simp only [Bool.false_eq_true, if_true, if_false, decide_eq_true_eq, decide_eq_false_iff_not]
    omega

theorem exponentBits_ofMagnitude (small : magnitude < 2 ^ 63) :
    (ofMagnitude negative magnitude).exponentBits = magnitude / 2 ^ 52 := by
  simp only [exponentBits, ofMagnitude, UInt64.toNat_ofNat', Nat.pow_eq]
  cases negative
  all_goals
    simp only [Bool.false_eq_true, if_true, if_false]
    omega

theorem fractionBits_ofMagnitude :
    (ofMagnitude negative magnitude).fractionBits = magnitude % 2 ^ 52 := by
  simp only [fractionBits, ofMagnitude, UInt64.toNat_ofNat', Nat.pow_eq]
  cases negative
  all_goals
    simp only [Bool.false_eq_true, if_true, if_false]
    omega

end Bits

/-- A number of fifty-three bits is a double as it is. -/
theorem size_ofQuotient_one (negative : Bool) {n : ℕ} (some : 0 < n) (small : n < 2 ^ 53) :
    (ofQuotient negative n 1).isNegative = negative ∧ (ofQuotient negative n 1).size = n := by
  have bits : n.log2 < 53 := (Nat.log2_lt some.ne').mpr small
  have low := Nat.log2_self_le some.ne'
  have high := Nat.lt_log2_self (n := n)
  generalize n.log2 = top at bits low high
  -- The number with its leading bit moved to bit fifty-two.
  obtain ⟨k, sum⟩ : ∃ k, top + k = 52 := ⟨52 - top, by omega⟩
  have full : 2 ^ 52 ≤ n * 2 ^ k := by
    rw [← sum, pow_add]
    exact Nat.mul_le_mul_right _ low
  have less : n * 2 ^ k < 2 ^ 53 := by
    have exponents : 53 = top + 1 + k := by omega
    rw [exponents, pow_add]
    exact Nat.mul_lt_mul_of_pos_right high (Nat.two_pow_pos k)
  generalize moved : n * 2 ^ k = s at full less
  generalize built : ofMagnitude negative ((1074 - k) * 2 ^ 52 + s) = x
  have size : (1074 - k) * 2 ^ 52 + s < 2 ^ 63 := by omega
  have exponent : x.exponentBits = 1075 - k := by
    rw [← built, exponentBits_ofMagnitude negative size]
    omega
  have fraction : x.fractionBits = s - 2 ^ 52 := by
    rw [← built, fractionBits_ofMagnitude negative]
    omega
  have sign : x.isNegative = negative := by
    rw [← built, isNegative_ofMagnitude negative size]
  have significand : x.significand = s := by
    rw [Double.significand, exponent, fraction, if_neg (by omega), Nat.pow_eq]
    omega
  have scale : x.scale = -(k : ℤ) := by
    rw [Double.scale, exponent, if_neg (by omega)]
    omega
  have finite : x.isFinite = true := by
    rw [isFinite, exponent, bne_iff_ne, Nat.pow_eq]
    omega
  have value : x.size = n := by
    rw [Double.size, significand, scale, ← moved, zpow_neg, zpow_natCast]
    push_cast
    field_simp
  have nonzero : 0 < x.significand := by omega
  have near := near_size nonzero
  rw [value, ← div_one (n : ℚ), ← Nat.cast_one] at near
  have read := ofQuotient_of_near finite Nat.one_pos nonzero near
  rw [sign] at read
  rw [read]
  exact ⟨sign, value⟩

theorem size_tenPower {k : ℕ} (few : k ≤ 22) :
    (tenPower k).isNegative = false ∧ (tenPower k).size = 10 ^ k := by
  have table : ∀ k < 23, (tenPower k).isNegative = false ∧
      (tenPower k).significand * 2 ^ (tenPower k).scale.toNat =
        10 ^ k * 2 ^ (-(tenPower k).scale).toNat := by
    decide +kernel
  obtain ⟨sign, whole⟩ := table k (Nat.lt_succ_of_le few)
  refine ⟨sign, ?_⟩
  have twos := zpow_mul_pow_neg (b := 2) (by norm_num) (tenPower k).scale
  have cast : ((tenPower k).significand * 2 ^ (tenPower k).scale.toNat : ℚ) =
      10 ^ k * 2 ^ (-(tenPower k).scale).toNat := by
    exact_mod_cast whole
  rw [← twos, ← mul_assoc] at cast
  exact mul_right_cancel₀ (by positivity) cast

variable {x y z : Double}

/-- A product that is near a double is rounded to it. -/
theorem times_of_near (finite : z.isFinite) (nonzero : 0 < z.significand)
    (sign : (x.isNegative != y.isNegative) = z.isNegative) (near : z.Near (x.size * y.size)) :
    x.times y = z := by
  rw [times, sign]
  refine ofQuotient_of_near finite (Nat.pow_pos (by decide)) nonzero ?_
  have twos := zpow_mul_pow_neg (b := 2) (by norm_num) (x.scale + y.scale)
  have same : ((x.significand * y.significand * Nat.pow 2 (x.scale + y.scale).toNat : ℕ) : ℚ) /
      (Nat.pow 2 (-(x.scale + y.scale)).toNat : ℕ) = x.size * y.size := by
    simp only [Nat.pow_eq]
    push_cast
    rw [← twos, size, size, zpow_add₀ two_ne_zero]
    field_simp
  exact same ▸ near

/-- A quotient of doubles that is near a double is rounded to it. -/
theorem dividedBy_of_near (finite : z.isFinite) (nonzero : 0 < z.significand)
    (divisor : 0 < y.significand) (sign : (x.isNegative != y.isNegative) = z.isNegative)
    (near : z.Near (x.size / y.size)) : x.dividedBy y = z := by
  rw [dividedBy, sign]
  refine ofQuotient_of_near finite (Nat.mul_pos divisor (Nat.pow_pos (by decide))) nonzero ?_
  have twos := zpow_mul_pow_neg (b := 2) (by norm_num) (x.scale - y.scale)
  have some : (y.significand : ℚ) ≠ 0 := by exact_mod_cast divisor.ne'
  have same : ((x.significand * Nat.pow 2 (x.scale - y.scale).toNat : ℕ) : ℚ) /
      (y.significand * Nat.pow 2 (-(x.scale - y.scale)).toNat : ℕ) = x.size / y.size := by
    simp only [Nat.pow_eq]
    push_cast
    rw [← twos, size, size, zpow_sub₀ two_ne_zero]
    field_simp
  exact same ▸ near

theorem digitsValue_eq (ds : List Char) : digitsValue ds = Nat.ofDigitChars 10 ds 0 := by
  rw [digitsValue, Nat.ofDigitChars]
  congr 1
  funext n c
  rw [Nat.mul_comm]

theorem le_ofDigitChars (n : ℕ) (ds : List Char) : n ≤ Nat.ofDigitChars 10 ds n := by
  rw [Nat.ofDigitChars_eq_ofDigitChars_zero]
  exact (Nat.le_mul_of_pos_left n (Nat.pow_pos (by decide))).trans (Nat.le_add_right _ _)

theorem takeDigits_of_lt {n : ℕ} {ds : List Char} (fits : Nat.ofDigitChars 10 ds n < 2 ^ 64) :
    takeDigits n ds = (Nat.ofDigitChars 10 ds n, []) := by
  induction ds generalizing n with
  | nil => rfl
  | cons c rest ih =>
    have next : Nat.ofDigitChars 10 (c :: rest) n =
        Nat.ofDigitChars 10 rest (n * 10 + (c.toNat - '0'.toNat)) := by
      rw [Nat.mul_comm]
      rfl
    rw [next] at fits ⊢
    have here := (le_ofDigitChars _ rest).trans_lt fits
    rw [takeDigits, Nat.pow_eq, if_pos here, ih fits]

/-- A decimal of fifty-three bits of digits and a small power of ten is rounded once, if at all. -/
theorem scaled_of_near {x : Double} {units : ℕ} {power : ℤ} (finite : x.isFinite)
    (nonzero : 0 < x.significand) (small : units < 2 ^ 53) (least : -22 ≤ power) (most : power ≤ 22)
    (near : x.Near (units * 10 ^ power)) : scaled x.isNegative units power = x := by
  have some : 0 < units := near.units_pos (d := ⟨units, power⟩) nonzero
  obtain ⟨sign, exact⟩ := size_ofQuotient_one x.isNegative some small
  unfold scaled
  simp only
  split
  next up =>
    obtain ⟨unsigned, ten⟩ := size_tenPower (k := up) (by simpa using most)
    rw [if_pos (by simp only [Int.ofNat_eq_natCast, greatestPower] at most ⊢; omega)]
    apply times_of_near finite nonzero
    · rw [sign, unsigned, Bool.bne_false]
    · rw [exact, ten]
      exact near
  next d =>
    have few : d < greatestPower := by
      simp only [greatestPower]
      omega
    obtain ⟨unsigned, ten⟩ := size_tenPower (k := d + 1) (by omega)
    rw [Nat.div_eq_of_lt few, Nat.mod_eq_of_lt few, lower]
    apply dividedBy_of_near finite nonzero
    · apply Nat.pos_of_ne_zero
      intro zero
      have positive : (0 : ℚ) < (tenPower (d + 1)).size := by
        rw [ten]
        positivity
      rw [size, zero] at positive
      simp at positive
    · rw [sign, unsigned, Bool.bne_false]
    · rw [exact, ten, div_eq_mul_inv, ← zpow_natCast, ← zpow_neg]
      exact near

/-- A numeral with few digits and a small power of ten is read as the double near it. -/
theorem stepwise_of_near {x : Double} {n : Numeral} (finite : x.isFinite)
    (nonzero : 0 < x.significand) (small : digitsValue (n.whole ++ n.fraction) < 2 ^ 53)
    (least : -22 ≤ n.power - n.fraction.length) (most : n.power - n.fraction.length ≤ 22)
    (near : x.Near (digitsValue (n.whole ++ n.fraction) * 10 ^ (n.power - n.fraction.length))) :
    stepwise x.isNegative n = x := by
  have joined : digitsValue (n.whole ++ n.fraction) =
      Nat.ofDigitChars 10 n.fraction (Nat.ofDigitChars 10 n.whole 0) := by
    rw [digitsValue_eq, Nat.ofDigitChars, List.foldl_append]
    rfl
  rw [joined] at small near
  have fits := small.trans (by decide : 2 ^ 53 < 2 ^ 64)
  have whole := takeDigits_of_lt ((le_ofDigitChars _ n.fraction).trans_lt fits)
  rw [stepwise, whole]
  simp only [takeDigits_of_lt fits, List.length_nil, Nat.cast_zero, add_zero]
  exact scaled_of_near finite nonzero small least most near

end Double

end RemoteSurface
