import Mathlib.Algebra.Order.Floor.Semifield
import Mathlib.Data.Int.Log
import Mathlib.Data.Rat.Floor
import Mathlib.Tactic
import PenPlotter.Decimal.Binary

/-! # The double nearest to a number

The 63 low bits of a double are a whole number that grows with the magnitude: `value n` is the
magnitude of the double with the bits `n`, and the bits of infinity stand for the first magnitude
that has no double.  `nearest x` are the bits of the correctly rounded `x ≥ 0`: the significand is
rounded to a whole number of units in the last place, a carry runs into the exponent by itself,
and everything beyond the range is infinity.  `nearest_closest` says that no double is closer to
`x`, and that of two that are equally close it is the even one. -/

namespace PenPlotter
namespace Double

/-! ### Definitions -/

/-- The whole number nearest to `x`, the even one of two that are equally near. -/
def roundEven (x : ℚ) : ℕ :=
  let n := ⌊x⌋₊
  if x < n + 1 / 2 then n else if n + 1 / 2 < x then n + 1 else n + n % 2

/-- The exponent of the unit in the last place of the double nearest to `x`. -/
def exponent (x : ℚ) : ℤ := max (Int.log 2 x - 52) (-1074)

/-- The bits of the double `r · 2 ^ t`, where `r` has 53 bits or `t` is the least exponent. -/
def grid (t : ℤ) (r : ℕ) : ℕ := (t + 1074).toNat * 2 ^ 52 + r

/-- The bits of the rounded `x > 0`, before the range is looked at. -/
def rounded (x : ℚ) : ℕ := grid (exponent x) (roundEven (x / 2 ^ exponent x))

/-- The bits of infinity. -/
def infinity : ℕ := 2047 * 2 ^ 52

/-- The bits of the double nearest to `x ≥ 0`. -/
def nearest (x : ℚ) : ℕ :=
  if x = 0 then 0 else min (rounded x) infinity

/-- The magnitude of the double with the bits `n`. -/
def value (n : ℕ) : ℚ :=
  if n < 2 ^ 52 then n * 2 ^ (-1074 : ℤ)
  else ((2 ^ 52 + n % 2 ^ 52 : ℕ) : ℚ) * 2 ^ ((n / 2 ^ 52 : ℕ) - 1075 : ℤ)

/-! ### Rounding to whole numbers -/

section whole

variable {x : ℚ}

/-- The rounded number is the floor when `x` is in the lower half of its unit, and one more when
it is in the upper half. -/
theorem roundEven_cases (hx : 0 ≤ x) :
    (roundEven x ≤ x ∧ x - roundEven x < 1 / 2) ∨
    (x < roundEven x ∧ roundEven x - x < 1 / 2) ∨
    (Even (roundEven x) ∧ |(roundEven x : ℚ) - x| = 1 / 2) := by
  have hlo : (⌊x⌋₊ : ℚ) ≤ x := Nat.floor_le hx
  have hhi : x < ⌊x⌋₊ + 1 := Nat.lt_floor_add_one x
  unfold roundEven
  dsimp only
  split_ifs with hlt hgt
  · exact Or.inl ⟨hlo, by linarith⟩
  · refine Or.inr (Or.inl ⟨?_, ?_⟩) <;> push_cast <;> linarith
  · have hmid : x = ⌊x⌋₊ + 1 / 2 := le_antisymm (not_lt.mp hgt) (not_lt.mp hlt)
    refine Or.inr (Or.inr ⟨by rw [Nat.even_iff]; omega, ?_⟩)
    rcases Nat.mod_two_eq_zero_or_one ⌊x⌋₊ with hm | hm
    · rw [hm, Nat.add_zero, abs_of_nonpos] <;> linarith
    · rw [hm, abs_of_nonneg] <;> push_cast <;> linarith

/-- A whole number is no closer to `x` than the rounded one, and if it is as close then it is the
rounded one or the rounded one is even. -/
theorem roundEven_closest (hx : 0 ≤ x) (j : ℕ) :
    |(roundEven x : ℚ) - x| ≤ |(j : ℚ) - x| ∧
      (|(j : ℚ) - x| = |(roundEven x : ℚ) - x| → j = roundEven x ∨ Even (roundEven x)) := by
  have hcases := roundEven_cases hx
  generalize roundEven x = r at hcases ⊢
  by_cases hj : j = r
  · subst hj
    exact ⟨le_rfl, fun _ => Or.inl rfl⟩
  have hfar : (j : ℚ) + 1 ≤ r ∨ (r : ℚ) + 1 ≤ j := by
    rcases Nat.lt_or_gt_of_ne hj with h | h
    · exact Or.inl (by exact_mod_cast h)
    · exact Or.inr (by exact_mod_cast h)
  have hdist : 1 ≤ |(j : ℚ) - r| := by
    rcases hfar with h | h
    · rw [abs_of_nonpos] <;> linarith
    · rw [abs_of_nonneg] <;> linarith
  have htri : |(j : ℚ) - r| ≤ |(j : ℚ) - x| + |(r : ℚ) - x| := by
    have := abs_sub_le (j : ℚ) x r
    rwa [abs_sub_comm x (r : ℚ)] at this
  rcases hcases with ⟨hle, hlt⟩ | ⟨hle, hlt⟩ | ⟨heven, hhalf⟩
  · have hr : |(r : ℚ) - x| < 1 / 2 := by rw [abs_of_nonpos] <;> linarith
    exact ⟨by linarith, fun h => by linarith⟩
  · have hr : |(r : ℚ) - x| < 1 / 2 := by rw [abs_of_nonneg] <;> linarith
    exact ⟨by linarith, fun h => by linarith⟩
  · exact ⟨by linarith, fun _ => Or.inr heven⟩

theorem le_roundEven {n : ℕ} (h : (n : ℚ) ≤ x) : n ≤ roundEven x := by
  have hfloor : n ≤ ⌊x⌋₊ := Nat.le_floor h
  unfold roundEven
  dsimp only
  split_ifs <;> omega

theorem roundEven_le {n : ℕ} (hx : 0 ≤ x) (h : x ≤ n) : roundEven x ≤ n := by
  rcases roundEven_cases hx with ⟨hle, _⟩ | ⟨_, hlt⟩ | ⟨_, hhalf⟩
  · exact_mod_cast hle.trans h
  · have : (roundEven x : ℚ) < n + 1 := by linarith
    exact Nat.lt_succ_iff.mp (by exact_mod_cast this)
  · have : (roundEven x : ℚ) < n + 1 := by linarith [(abs_le.mp hhalf.le).2]
    exact Nat.lt_succ_iff.mp (by exact_mod_cast this)

theorem roundEven_of_le_half (h : x ≤ 1 / 2) : roundEven x = 0 := by
  have hfloor : ⌊x⌋₊ = 0 := Nat.floor_eq_zero.mpr (h.trans_lt one_half_lt_one)
  unfold roundEven
  rw [hfloor]
  dsimp only
  split_ifs with h1 h2
  · rfl
  · rw [Nat.cast_zero, zero_add] at h2
    exact absurd h2 (not_lt.mpr h)
  · rfl

/-- Rounding a quotient of whole numbers needs no fractions. -/
theorem roundEven_div (a b : ℕ) (hb : 0 < b) :
    roundEven ((a : ℚ) / b) = Binary.roundDivEven a b := by
  have hbq : (0 : ℚ) < b := by exact_mod_cast hb
  have hfloor : ⌊(a : ℚ) / b⌋₊ = a / b := Nat.floor_div_eq_div a b
  have hsplit : (a : ℚ) / b = (a / b : ℕ) + (a % b : ℕ) / b := by
    have ha : (a : ℚ) = b * (a / b : ℕ) + (a % b : ℕ) := by exact_mod_cast (Nat.div_add_mod a b).symm
    conv_lhs => rw [ha]
    rw [add_div, mul_div_cancel_left₀ _ hbq.ne']
  have hlow : (a : ℚ) / b < (a / b : ℕ) + 1 / 2 ↔ 2 * (a % b) < b := by
    rw [hsplit, add_lt_add_iff_left, div_lt_div_iff₀ hbq two_pos]
    constructor
    · intro h
      have : ((2 * (a % b) : ℕ) : ℚ) < b := by push_cast; linarith
      exact_mod_cast this
    · intro h
      have : ((2 * (a % b) : ℕ) : ℚ) < b := by exact_mod_cast h
      push_cast at this
      linarith
  have hhigh : (a / b : ℕ) + 1 / 2 < (a : ℚ) / b ↔ b < 2 * (a % b) := by
    rw [hsplit, add_lt_add_iff_left, div_lt_div_iff₀ two_pos hbq]
    constructor
    · intro h
      have : (b : ℚ) < ((2 * (a % b) : ℕ) : ℚ) := by push_cast; linarith
      exact_mod_cast this
    · intro h
      have : (b : ℚ) < ((2 * (a % b) : ℕ) : ℚ) := by exact_mod_cast h
      push_cast at this
      linarith
  unfold roundEven Binary.roundDivEven
  dsimp only
  rw [hfloor]
  simp only [hlow, hhigh]
  split_ifs <;> omega

end whole

/-! ### Values -/

section values

/-- Every double is a grid point with a significand of less than 54 bits, and so is the next. -/
theorem exists_grid (n : ℕ) : ∃ t r, -1074 ≤ t ∧ r < 2 ^ 53 ∧ (2 ^ 52 ≤ r ∨ t = -1074) ∧
    n = grid t r := by
  by_cases h : n < 2 ^ 52
  · refine ⟨-1074, n, le_rfl, by omega, Or.inr rfl, ?_⟩
    simp [grid]
  · refine ⟨(n / 2 ^ 52 : ℕ) - 1075, 2 ^ 52 + n % 2 ^ 52, by omega, by omega, by omega, ?_⟩
    unfold grid
    omega

theorem value_grid {t : ℤ} {r : ℕ} (ht : -1074 ≤ t) (hr : r ≤ 2 ^ 53)
    (h : 2 ^ 52 ≤ r ∨ t = -1074) : value (grid t r) = r * 2 ^ t := by
  have hstep : ((2 ^ 53 : ℕ) : ℚ) * 2 ^ t = (2 ^ 52 : ℕ) * 2 ^ (t + 1) := by
    rw [zpow_add_one₀ two_ne_zero]
    push_cast
    ring
  rcases Nat.lt_or_ge r (2 ^ 52) with hsmall | hlarge
  · obtain rfl : t = -1074 := by omega
    have hg : grid (-1074) r = r := by simp [grid]
    rw [hg, value, if_pos hsmall]
  · have hge : ¬ grid t r < 2 ^ 52 := by unfold grid; omega
    rw [value, if_neg hge]
    rcases Nat.lt_or_eq_of_le hr with hlt | rfl
    · have hdiv : ((grid t r / 2 ^ 52 : ℕ) : ℤ) - 1075 = t := by unfold grid; omega
      have hmod : 2 ^ 52 + grid t r % 2 ^ 52 = r := by unfold grid; omega
      rw [hdiv, hmod]
    · have hdiv : ((grid t (2 ^ 53) / 2 ^ 52 : ℕ) : ℤ) - 1075 = t + 1 := by unfold grid; omega
      have hmod : 2 ^ 52 + grid t (2 ^ 53) % 2 ^ 52 = 2 ^ 52 := by unfold grid; omega
      rw [hdiv, hmod, hstep]

theorem value_strictMono : StrictMono value := by
  refine strictMono_nat_of_lt_succ fun n => ?_
  obtain ⟨t, r, ht, hr, h, rfl⟩ := exists_grid n
  have hnext : grid t r + 1 = grid t (r + 1) := by unfold grid; omega
  rw [hnext, value_grid ht (by omega) h, value_grid ht (by omega) (by omega)]
  refine mul_lt_mul_of_pos_right ?_ (by positivity)
  push_cast
  linarith

theorem value_infinity : value infinity = 2 ^ (1024 : ℤ) := by
  have hg : infinity = grid 972 (2 ^ 52) := by simp [grid, infinity]
  have hpow : ((2 ^ 52 : ℕ) : ℚ) = 2 ^ (52 : ℤ) := by norm_num
  rw [hg, value_grid (by norm_num) (by norm_num) (Or.inl le_rfl), hpow, ← zpow_add₀ two_ne_zero]
  rfl

end values

/-! ### The nearest double -/

section nearest

variable {x : ℚ}

theorem exponent_ge (x : ℚ) : -1074 ≤ exponent x := le_max_right _ _

/-- The scaled number that is rounded has 53 bits before the point, fewer only at the least
exponent. -/
theorem scaled_bounds (hx : 0 < x) :
    x / 2 ^ exponent x < (2 ^ 53 : ℕ) ∧
      (((2 ^ 52 : ℕ) : ℚ) ≤ x / 2 ^ exponent x ∨ exponent x = -1074) := by
  have hpow : (0 : ℚ) < 2 ^ exponent x := by positivity
  have hlow : (2 : ℚ) ^ Int.log 2 x ≤ x := by
    exact_mod_cast Int.zpow_log_le_self (R := ℚ) one_lt_two hx
  have hhigh : x < (2 : ℚ) ^ (Int.log 2 x + 1) := by
    exact_mod_cast Int.lt_zpow_succ_log_self (R := ℚ) one_lt_two x
  constructor
  · rw [div_lt_iff₀ hpow]
    refine hhigh.trans_le ?_
    have : (((2 ^ 53 : ℕ) : ℚ)) * 2 ^ exponent x = 2 ^ (53 + exponent x) := by
      rw [zpow_add₀ two_ne_zero]
      norm_num
    rw [this]
    refine zpow_le_zpow_right₀ one_le_two ?_
    unfold exponent
    omega
  · by_cases ht : exponent x = -1074
    · exact Or.inr ht
    · refine Or.inl ?_
      rw [le_div_iff₀ hpow]
      have : (((2 ^ 52 : ℕ) : ℚ)) * 2 ^ exponent x = 2 ^ (52 + exponent x) := by
        rw [zpow_add₀ two_ne_zero]
        norm_num
      rw [this]
      refine le_trans (zpow_le_zpow_right₀ one_le_two ?_) hlow
      unfold exponent at ht ⊢
      omega

theorem significand_bounds (hx : 0 < x) :
    roundEven (x / 2 ^ exponent x) ≤ 2 ^ 53 ∧
      (2 ^ 52 ≤ roundEven (x / 2 ^ exponent x) ∨ exponent x = -1074) := by
  obtain ⟨hhigh, hlow⟩ := scaled_bounds hx
  refine ⟨roundEven_le (by positivity) hhigh.le, ?_⟩
  exact hlow.imp_left le_roundEven

theorem nearest_le_infinity (x : ℚ) : nearest x ≤ infinity := by
  unfold nearest
  split_ifs
  · exact Nat.zero_le _
  · exact min_le_right _ _

theorem nearest_of_pos (hx : 0 < x) : nearest x = min (rounded x) infinity := if_neg hx.ne'

theorem nearest_zero : nearest 0 = 0 := if_pos rfl

theorem nearest_of_large (hx : 2 ^ (1024 : ℤ) ≤ x) : nearest x = infinity := by
  have hpos : 0 < x := lt_of_lt_of_le (by positivity) hx
  have hlog : 1024 ≤ Int.log 2 x := by
    rw [← Int.zpow_le_iff_le_log one_lt_two hpos, Nat.cast_ofNat]
    exact hx
  have ht : 972 ≤ exponent x := by unfold exponent; omega
  have hr : 2 ^ 52 ≤ roundEven (x / 2 ^ exponent x) :=
    (significand_bounds hpos).2.resolve_right (by omega)
  rw [nearest_of_pos hpos]
  refine min_eq_right ?_
  unfold infinity rounded grid
  omega

/-- Numbers up to half of the least positive double are rounded to zero. -/
theorem nearest_of_small (hx : 0 ≤ x) (hsmall : x ≤ 2 ^ (-1075 : ℤ)) : nearest x = 0 := by
  rcases hx.eq_or_lt with rfl | hpos
  · exact nearest_zero
  have hlog : Int.log 2 x < -1074 := by
    rw [← Int.lt_zpow_iff_log_lt one_lt_two hpos, Nat.cast_ofNat]
    exact lt_of_le_of_lt hsmall (zpow_lt_zpow_right₀ one_lt_two (by omega))
  have ht : exponent x = -1074 := by unfold exponent; omega
  have hhalf : x / 2 ^ (-1074 : ℤ) ≤ 1 / 2 := by
    rw [div_le_iff₀ (by positivity)]
    refine hsmall.trans (le_of_eq ?_)
    rw [show (-1074 : ℤ) = -1075 + 1 by norm_num, zpow_add_one₀ two_ne_zero]
    ring
  have hr := roundEven_of_le_half hhalf
  rw [nearest_of_pos hpos, rounded, ht, hr]
  rfl

/-- Among the doubles on the grid of `x` the rounded one is the closest. -/
theorem rounded_closest_on_grid (hx : 0 < x) {j : ℕ} (hj : j ≤ 2 ^ 53)
    (hlow : 2 ^ 52 ≤ j ∨ exponent x = -1074) :
    |value (rounded x) - x| ≤ |value (grid (exponent x) j) - x| ∧
      (|value (grid (exponent x) j) - x| = |value (rounded x) - x| →
        grid (exponent x) j = rounded x ∨ Even (rounded x)) := by
  obtain ⟨hr, hrlow⟩ := significand_bounds hx
  have hpow : (0 : ℚ) < 2 ^ exponent x := by positivity
  have hscale : ∀ k : ℕ, |(k : ℚ) * 2 ^ exponent x - x| =
      |(k : ℚ) - x / 2 ^ exponent x| * 2 ^ exponent x := by
    intro k
    rw [← abs_of_pos hpow, ← abs_mul, abs_of_pos hpow, sub_mul, div_mul_cancel₀ _ hpow.ne']
  have heven : Even (rounded x) ↔ Even (roundEven (x / 2 ^ exponent x)) := by
    simp only [Nat.even_iff]
    unfold rounded grid
    omega
  obtain ⟨hle, htie⟩ := roundEven_closest (x := x / 2 ^ exponent x) (by positivity) j
  rw [heven]
  unfold rounded
  rw [value_grid (exponent_ge x) hr hrlow, value_grid (exponent_ge x) hj hlow, hscale, hscale,
    mul_le_mul_iff_left₀ hpow, mul_left_inj' hpow.ne']
  exact ⟨hle, fun h => (htie h).imp_left (congrArg (grid (exponent x)))⟩

theorem rounded_closer_above (hx : 0 < x) {k : ℕ} (hk : grid (exponent x) (2 ^ 53) < k) :
    |value (rounded x) - x| < |value k - x| := by
  obtain ⟨hend, _⟩ := rounded_closest_on_grid hx le_rfl (Or.inl (by norm_num))
  have hlt : x < value (grid (exponent x) (2 ^ 53)) := by
    rw [value_grid (exponent_ge x) le_rfl (Or.inl (by norm_num)), ← div_lt_iff₀ (by positivity)]
    exact (scaled_bounds hx).1
  have hv := value_strictMono hk
  refine lt_of_le_of_lt hend ?_
  rw [abs_of_pos (by linarith), abs_of_pos (by linarith)]
  linarith

theorem rounded_closer_below (hx : 0 < x) (hleast : exponent x ≠ -1074) {k : ℕ}
    (hk : k < grid (exponent x) (2 ^ 52)) : |value (rounded x) - x| < |value k - x| := by
  obtain ⟨hend, _⟩ := rounded_closest_on_grid hx (j := 2 ^ 52) (by norm_num) (Or.inl le_rfl)
  have hge : value (grid (exponent x) (2 ^ 52)) ≤ x := by
    rw [value_grid (exponent_ge x) (by norm_num) (Or.inl le_rfl), ← le_div_iff₀ (by positivity)]
    exact (scaled_bounds hx).2.resolve_right hleast
  have hv := value_strictMono hk
  refine lt_of_le_of_lt hend ?_
  rw [abs_of_nonpos (by linarith), abs_of_neg (by linarith)]
  linarith

theorem rounded_closest (hx : 0 < x) (k : ℕ) :
    |value (rounded x) - x| ≤ |value k - x| ∧
      (|value k - x| = |value (rounded x) - x| → k = rounded x ∨ Even (rounded x)) := by
  rcases Nat.lt_or_ge (grid (exponent x) (2 ^ 53)) k with habove | hbelow
  · have h := rounded_closer_above hx habove
    exact ⟨h.le, fun he => absurd he h.ne'⟩
  by_cases hgrid : grid (exponent x) (2 ^ 52) ≤ k ∨ exponent x = -1074
  · obtain ⟨j, rfl⟩ : ∃ j, k = grid (exponent x) j :=
      ⟨k - (exponent x + 1074).toNat * 2 ^ 52, by unfold grid at *; omega⟩
    exact rounded_closest_on_grid hx (by unfold grid at hbelow; omega) (by unfold grid at hgrid; omega)
  · obtain ⟨hlow, hleast⟩ := not_or.mp hgrid
    have h := rounded_closer_below hx hleast (not_le.mp hlow)
    exact ⟨h.le, fun he => absurd he h.ne'⟩

/-- A number that is rounded out of the range is beyond every finite double. -/
theorem value_infinity_le (hx : 0 < x) (hover : infinity < rounded x) : value infinity ≤ x := by
  have hr := (significand_bounds hx).1
  have ht : 972 ≤ exponent x := by unfold infinity rounded grid at hover; omega
  have hy := (scaled_bounds hx).2.resolve_right (by omega)
  rw [le_div_iff₀ (by positivity)] at hy
  refine le_trans ?_ hy
  have h52 : ((2 ^ 52 : ℕ) : ℚ) = 2 ^ (52 : ℤ) := by norm_num
  rw [value_infinity, h52, ← zpow_add₀ two_ne_zero]
  exact zpow_le_zpow_right₀ one_le_two (by omega)

/-- **The nearest double**: no double is closer to `x`, and if one is as close then it is the
nearest one or the bits of the nearest one are even.  Infinity counts as `2 ^ 1024`. -/
theorem nearest_closest (hx : 0 ≤ x) {k : ℕ} (hk : k ≤ infinity) :
    |value (nearest x) - x| ≤ |value k - x| ∧
      (|value k - x| = |value (nearest x) - x| → k = nearest x ∨ Even (nearest x)) := by
  rcases hx.eq_or_lt with rfl | hpos
  · rw [nearest_zero]
    have h0 : value 0 = 0 := by simp [value]
    exact ⟨by simp [h0], fun _ => Or.inr ⟨0, rfl⟩⟩
  rcases Nat.lt_or_ge infinity (rounded x) with hover | hin
  · have hn : nearest x = infinity := by rw [nearest_of_pos hpos, min_eq_right hover.le]
    have hbig := value_infinity_le hpos hover
    have hle : value k ≤ value infinity := value_strictMono.monotone hk
    rw [hn, abs_of_nonpos (by linarith), abs_of_nonpos (by linarith)]
    exact ⟨by linarith, fun h => Or.inl (value_strictMono.injective (by linarith))⟩
  · have hn : nearest x = rounded x := by rw [nearest_of_pos hpos, min_eq_left hin]
    rw [hn]
    exact rounded_closest hpos k

end nearest

end Double
end PenPlotter
