import RemoteSurface.Proofs.NearestDoubles
/-!
The shortest decimal of a double is near it, whichever digits the search ends with: a decimal that
is found reads back, and where none is found the decimal of eighteen digits below the value is
less than a quarter of a place away.
-/
namespace RemoteSurface

namespace Double

variable {x : Double}

theorem compareQuarters_scaled (d : Decimal) (quarters : ℕ) (scale : ℤ) :
    ∃ K : ℚ, 0 < K ∧
      ((d.units * Nat.pow 10 d.power.toNat * Nat.pow 2 (-(scale - 2)).toNat : ℕ) : ℚ) = d.value * K ∧
      ((quarters * Nat.pow 2 (scale - 2).toNat * Nat.pow 10 (-d.power).toNat : ℕ) : ℚ) =
        quarters * 2 ^ (scale - 2) * K := by
  refine ⟨10 ^ (-d.power).toNat * 2 ^ (-(scale - 2)).toNat, by positivity, ?_, ?_⟩
  · have tens := zpow_mul_pow_neg (b := 10) (by norm_num) d.power
    simp only [Nat.pow_eq]
    push_cast
    rw [← tens, Decimal.value]
    ring
  · have twos := zpow_mul_pow_neg (b := 2) (by norm_num) (scale - 2)
    simp only [Nat.pow_eq]
    push_cast
    rw [← twos]
    ring

theorem quarters_mul_zpow (k : ℚ) (s : ℤ) : k * 2 ^ (s - 2) = k / 4 * 2 ^ s := by
  rw [zpow_sub₀ two_ne_zero]
  norm_num
  ring

theorem compareQuarters_eq_lt_iff (d : Decimal) (quarters : ℕ) (scale : ℤ) :
    compareQuarters d quarters scale = .lt ↔ d.value < quarters / 4 * 2 ^ scale := by
  obtain ⟨K, positive, left, right⟩ := compareQuarters_scaled d quarters scale
  rw [compareQuarters, Nat.compare_eq_lt, ← Nat.cast_lt (α := ℚ), left, right,
    mul_lt_mul_iff_left₀ positive, quarters_mul_zpow]

theorem compareQuarters_eq_gt_iff (d : Decimal) (quarters : ℕ) (scale : ℤ) :
    compareQuarters d quarters scale = .gt ↔ quarters / 4 * 2 ^ scale < d.value := by
  obtain ⟨K, positive, left, right⟩ := compareQuarters_scaled d quarters scale
  rw [compareQuarters, Nat.compare_eq_gt, ← Nat.cast_lt (α := ℚ), left, right,
    mul_lt_mul_iff_left₀ positive, quarters_mul_zpow]

theorem near_of_readsBack {d : Decimal} (back : x.readsBack d = true) : x.Near d.value := by
  simp only [readsBack, Bool.and_eq_true] at back
  obtain ⟨fromLow, toHigh⟩ := back
  generalize lowIs : compareQuarters d (4 * x.significand -
    if x.fractionBits = 0 ∧ 1 < x.exponentBits then 1 else 2) x.scale = low at fromLow
  generalize highIs : compareQuarters d (4 * x.significand + 2) x.scale = high at toHigh
  have below := compareQuarters_eq_lt_iff d x.lowQuarters x.scale
  have notBelow := compareQuarters_eq_gt_iff d x.lowQuarters x.scale
  have notAbove := compareQuarters_eq_lt_iff d x.highQuarters x.scale
  have above := compareQuarters_eq_gt_iff d x.highQuarters x.scale
  rw [lowQuarters, lowIs, ← lowQuarters] at below notBelow
  rw [highQuarters, highIs, ← highQuarters] at notAbove above
  constructor
  · by_contra less
    have impossible := below.mpr (not_le.mp less)
    subst impossible
    simp at fromLow
  · by_contra more
    have impossible := above.mpr (not_le.mp more)
    subst impossible
    simp at toHigh
  · intro odd
    constructor
    · intro same
      cases low with
      | lt => simp at fromLow
      | eq => simp [odd] at fromLow
      | gt => exact (notBelow.mp rfl).ne same
    · intro same
      cases high with
      | lt => exact (notAbove.mp rfl).ne same
      | eq => simp [odd] at toHigh
      | gt => simp at toHigh

theorem readsBack_of_onGrid? {tie : Tie} {power : ℤ} {d : Decimal}
    (found : x.onGrid? tie power = some d) : x.readsBack d = true := by
  unfold onGrid? at found
  simp only at found
  split at found
  · cases found
  · cases found
    assumption
  · cases found
    assumption
  · split at found
    · cases found
      assumption
    · cases found
      assumption
    · cases tie with
      | upward =>
        cases found
        assumption
      | toEven =>
        simp only [Option.some.injEq] at found
        split at found <;> subst found <;> assumption

theorem value_dropZeros (d : Decimal) (n : ℕ) : (dropZeros d n).value = d.value := by
  induction n generalizing d with
  | zero => rfl
  | succ n ih =>
    rw [dropZeros]
    split
    next zero =>
      have whole : d.units = d.units / 10 * 10 := by omega
      have cast : (d.units : ℚ) = (d.units / 10 : ℕ) * 10 := by exact_mod_cast whole
      rw [ih, Decimal.value, Decimal.value, cast, zpow_add_one₀ (by norm_num)]
      ring
    next => rfl

theorem ten_zpow_le_two_zpow {e : ℤ} (range : -4096 ≤ e) :
    (10 : ℚ) ^ ((e * 1233).fdiv 4096 - 1) ≤ 2 ^ e := by
  have above : (10 : ℚ) ^ 1233 ≤ 2 ^ 4096 := by
    exact_mod_cast (by decide +kernel : 10 ^ 1233 ≤ 2 ^ 4096)
  have below : (2 : ℚ) ^ 4096 ≤ 10 ^ 1234 := by
    exact_mod_cast (by decide +kernel : 2 ^ 4096 ≤ 10 ^ 1234)
  have guessed : 4096 * (e * 1233).fdiv 4096 ≤ e * 1233 := by
    have rest := Int.fmod_nonneg_of_pos (e * 1233) (by decide : (0 : ℤ) < 4096)
    have parts := Int.mul_fdiv_add_fmod (e * 1233) 4096
    omega
  generalize (e * 1233).fdiv 4096 = guess at guessed ⊢
  -- Raised to the power 4096 both sides are powers with whole exponents. Where the exponent grows
  -- the first bound decides, and where it shrinks the second, which is why the guess is lowered.
  apply (pow_le_pow_iff_left₀ (by positivity) (by positivity) (by decide : 4096 ≠ 0)).mp
  rw [← zpow_natCast, ← zpow_mul, ← zpow_natCast (2 ^ e), ← zpow_mul]
  rcases le_or_gt 0 e with grows | shrinks
  · calc (10 : ℚ) ^ ((guess - 1) * (4096 : ℕ)) ≤ 10 ^ ((1233 : ℕ) * e) :=
          zpow_le_zpow_right₀ (by norm_num) (by push_cast; omega)
      _ = (10 ^ 1233) ^ e := by rw [zpow_mul, zpow_natCast]
      _ ≤ (2 ^ 4096) ^ e := zpow_le_zpow_left₀ grows (by positivity) above
      _ = 2 ^ (e * (4096 : ℕ)) := by rw [mul_comm, zpow_mul, zpow_natCast]
  · calc (10 : ℚ) ^ ((guess - 1) * (4096 : ℕ)) ≤ 10 ^ ((1234 : ℕ) * e) :=
          zpow_le_zpow_right₀ (by norm_num) (by push_cast; omega)
      _ = (10 ^ 1234) ^ e := by rw [zpow_mul, zpow_natCast]
      _ ≤ (2 ^ 4096) ^ e := by
          have turned := zpow_le_zpow_left₀ (by omega : 0 ≤ -e) (by positivity) below
          rw [zpow_neg, zpow_neg] at turned
          exact (inv_le_inv₀ (by positivity) (by positivity)).mp turned
      _ = 2 ^ (e * (4096 : ℕ)) := by rw [mul_comm, zpow_mul, zpow_natCast]

theorem exact_iff (p : ℤ) : (compareQuarters ⟨1, p⟩ (4 * x.significand) x.scale != .gt) = true ↔
    (10 : ℚ) ^ p ≤ x.significand * 2 ^ x.scale := by
  have more := compareQuarters_eq_gt_iff ⟨1, p⟩ (4 * x.significand) x.scale
  have one : (⟨1, p⟩ : Decimal).value = 10 ^ p := by simp [Decimal.value]
  have four : ((4 * x.significand : ℕ) / 4 : ℚ) = x.significand := by
    push_cast
    ring
  rw [one, four] at more
  rw [bne_iff_ne, ne_eq, more, not_lt]

theorem ten_zpow_leadingPower_le (nonzero : 0 < x.significand) :
    (10 : ℚ) ^ x.leadingPower ≤ x.significand * 2 ^ x.scale := by
  rw [leadingPower]
  simp only
  split
  next exact => exact (exact_iff _).mp exact
  next =>
    split
    next exact => exact (exact_iff _).mp exact
    next =>
      have least := x.scale_ge
      calc (10 : ℚ) ^ (((x.scale + x.significand.log2) * 1233).fdiv 4096 - 1)
          ≤ 2 ^ (x.scale + x.significand.log2) := ten_zpow_le_two_zpow (by omega)
        _ = 2 ^ (x.significand.log2 : ℤ) * 2 ^ x.scale := by
            rw [zpow_add₀ two_ne_zero, mul_comm]
        _ ≤ x.significand * 2 ^ x.scale :=
            mul_le_mul_of_nonneg_right (two_zpow_log2_le nonzero) (by positivity)

theorem floorOn_spec (power : ℤ) : (x.floorOn power).value ≤ x.significand * 2 ^ x.scale ∧
    x.significand * 2 ^ x.scale < (x.floorOn power).value + 10 ^ power := by
  have twos := zpow_mul_pow_neg (b := 2) (by norm_num) x.scale
  have tens := zpow_mul_pow_neg (b := 10) (by norm_num) power
  have place : (0 : ℚ) < 10 ^ power := by positivity
  rw [floorOn, Decimal.value]
  simp only
  generalize numIs : x.significand * Nat.pow 2 x.scale.toNat * Nat.pow 10 (-power).toNat = num
  generalize denIs : Nat.pow 2 (-x.scale).toNat * Nat.pow 10 power.toNat = den
  have positive : 0 < den := by
    rw [← denIs]
    exact Nat.mul_pos (Nat.pow_pos (by decide)) (Nat.pow_pos (by decide))
  have cast : (0 : ℚ) < den := by exact_mod_cast positive
  have whole : (num : ℚ) * 10 ^ power = x.significand * 2 ^ x.scale * den := by
    rw [← numIs, ← denIs]
    simp only [Nat.pow_eq]
    push_cast
    rw [← twos, ← tens]
    ring
  have parts : (den * (num / den : ℕ) + (num % den : ℕ) : ℚ) = num := by
    exact_mod_cast Nat.div_add_mod num den
  have rest : ((num % den : ℕ) : ℚ) < den := by exact_mod_cast Nat.mod_lt num positive
  have some : (0 : ℚ) ≤ (num % den : ℕ) := Nat.cast_nonneg _
  constructor
  · apply le_of_mul_le_mul_right _ cast
    rw [← whole, ← parts]
    nlinarith
  · apply lt_of_mul_lt_mul_right _ cast.le
    rw [← whole, ← parts]
    nlinarith

/-- What is below the value by less than a quarter of a place is near it. -/
theorem near_of_close {v : ℚ} (nonzero : 0 < x.significand)
    (below : (x.significand - 1 / 4) * 2 ^ x.scale < v) (above : v ≤ x.significand * 2 ^ x.scale) :
    x.Near v := by
  have size : (0 : ℚ) < 2 ^ x.scale := by positivity
  have bottom : (x.lowQuarters / 4 : ℚ) ≤ x.significand - 1 / 4 := by
    have whole : x.lowQuarters + 1 ≤ 4 * x.significand := by
      rw [lowQuarters]
      split <;> omega
    have cast : (x.lowQuarters + 1 : ℚ) ≤ 4 * x.significand := by exact_mod_cast whole
    linarith
  have low : x.lowQuarters / 4 * 2 ^ x.scale < v :=
    (mul_le_mul_of_nonneg_right bottom size.le).trans_lt below
  have high : v < x.highQuarters / 4 * 2 ^ x.scale := by
    refine above.trans_lt (mul_lt_mul_of_pos_right ?_ size)
    rw [highQuarters]
    push_cast
    linarith
  exact ⟨low.le, high.le, fun _ => ⟨low.ne, high.ne⟩⟩

theorem near_floorOn (nonzero : 0 < x.significand) :
    x.Near (x.floorOn (x.leadingPower - 17)).value := by
  obtain ⟨notAbove, close⟩ := x.floorOn_spec (x.leadingPower - 17)
  have lead := ten_zpow_leadingPower_le nonzero
  have top : (x.significand + 1 : ℚ) ≤ 2 ^ 53 := by exact_mod_cast x.significand_lt
  have size : (0 : ℚ) < 2 ^ x.scale := by positivity
  refine near_of_close nonzero ?_ notAbove
  have place : (10 : ℚ) ^ (x.leadingPower - 17) < 1 / 4 * 2 ^ x.scale := by
    rw [zpow_sub₀ (by norm_num)]
    calc (10 : ℚ) ^ x.leadingPower / 10 ^ (17 : ℤ)
        ≤ x.significand * 2 ^ x.scale / 10 ^ (17 : ℤ) := by gcongr
      _ = x.significand / 10 ^ (17 : ℤ) * 2 ^ x.scale := by ring
      _ < 1 / 4 * 2 ^ x.scale := by
          refine mul_lt_mul_of_pos_right ?_ size
          rw [div_lt_iff₀ (by positivity)]
          calc (x.significand : ℚ) < 2 ^ 53 := by linarith
            _ < 1 / 4 * 10 ^ (17 : ℤ) := by norm_num
  linarith

theorem near_shortest (nonzero : 0 < x.significand) (tie : Tie) :
    x.Near (x.shortest tie).value := by
  rw [shortest, value_dropZeros]
  -- Only the outcome of the search matters: a grid that reads back, or no grid at all.
  generalize searched : (List.range 17).findSome? _ = found
  cases found with
  | none => exact near_floorOn nonzero
  | some d =>
    obtain ⟨n, -, read⟩ := List.exists_of_findSome?_eq_some searched
    exact near_of_readsBack (readsBack_of_onGrid? read)

end Double

end RemoteSurface
