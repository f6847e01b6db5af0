import PenPlotter.Decimal.Shortest
import PenPlotter.Proofs.Decimal.Binary
import PenPlotter.Proofs.Double.Numeral

/-! # The shortest decimal reads back

The reals that are rounded to a double form an interval.  A decimal that `Shortest` takes lies in
it (`search_good`), and one is found with 17 digits at the latest, because their grid is narrower
than the interval.  So the decimal stands for the double that it was made from
(`toFloat_ofFloat`). -/

namespace PenPlotter

open Double

namespace Shortest

/-! ### Rounding intervals -/

namespace Interval

variable (i : Interval)

/-- The lower end. -/
def bottom : ℚ := i.low / i.den

/-- The value. -/
def middle : ℚ := i.value / i.den

/-- The upper end. -/
def top : ℚ := i.high / i.den

/-- A number between the ends, or an end where the interval is closed. -/
def Holds (y : ℚ) : Prop :=
  (i.bottom < y ∨ i.closed = true ∧ i.bottom = y) ∧ (y < i.top ∨ i.closed = true ∧ y = i.top)

variable {i}

theorem contains_iff {num scale : ℕ} (hden : 0 < i.den) (hscale : 0 < scale) :
    i.contains num scale = true ↔ i.Holds (num / (scale * i.den)) := by
  have hd : (0 : ℚ) < i.den := by exact_mod_cast hden
  have hs : (0 : ℚ) < scale := by exact_mod_cast hscale
  have hlow : i.bottom = (i.low * scale : ℕ) / (scale * i.den) := by
    rw [bottom]
    push_cast
    field_simp
  have hhigh : i.top = (i.high * scale : ℕ) / (scale * i.den) := by
    rw [top]
    push_cast
    field_simp
  rw [Holds, hlow, hhigh, div_lt_div_iff_of_pos_right (by positivity),
    div_lt_div_iff_of_pos_right (by positivity), div_left_inj' (by positivity),
    div_left_inj' (by positivity)]
  norm_cast
  cases hclosed : i.closed
  · simp [contains, hclosed]
  · simp [contains, hclosed, le_iff_lt_or_eq]

end Interval

/-! ### Grids -/

variable {tie : TieRule} {i : Interval} {k : ℤ}

/-- A decimal is the value itself or lies in the interval. -/
def Good (i : Interval) (y : ℚ) : Prop := y = i.middle ∨ i.Holds y

/-- What a value and a grid are multiplied with to bring both to whole numbers. -/
def scaleOf (k : ℤ) : ℕ := if k < 0 then Nat.pow 10 (-k).toNat else 1

/-- The step of a grid after that. -/
def unitOf (i : Interval) (k : ℤ) : ℕ := (if k < 0 then 1 else Nat.pow 10 k.toNat) * i.den

theorem scaleOf_pos (k : ℤ) : 0 < scaleOf k := by
  unfold scaleOf
  split
  · exact Nat.pow_pos (by norm_num)
  · exact Nat.one_pos

theorem unitOf_div (hden : 0 < i.den) (k : ℤ) :
    (unitOf i k : ℚ) / (scaleOf k * i.den) = 10 ^ k := by
  have hd : (0 : ℚ) < i.den := by exact_mod_cast hden
  unfold unitOf scaleOf
  by_cases hk : k < 0
  · have hpow : ((Nat.pow 10 (-k).toNat : ℕ) : ℚ) = 10 ^ (-k) := cast_ten_pow (by omega)
    rw [if_pos hk, if_pos hk, hpow, zpow_neg]
    push_cast
    field_simp
  · have hpow : ((Nat.pow 10 k.toNat : ℕ) : ℚ) = 10 ^ k := cast_ten_pow (by omega)
    rw [if_neg hk, if_neg hk]
    push_cast [hpow]
    field_simp

theorem contains_grid (hden : 0 < i.den) (k : ℤ) (n : ℕ) :
    i.contains (n * unitOf i k) (scaleOf k) = true ↔ i.Holds (n * 10 ^ k) := by
  rw [Interval.contains_iff hden (scaleOf_pos k), ← unitOf_div hden k]
  push_cast
  rw [mul_div_assoc]

theorem middle_eq (hden : 0 < i.den) (k : ℤ) :
    i.middle = (i.value * scaleOf k : ℕ) / (scaleOf k * i.den) := by
  have hd : (0 : ℚ) < i.den := by exact_mod_cast hden
  have hs : (0 : ℚ) < scaleOf k := by exact_mod_cast scaleOf_pos k
  rw [Interval.middle]
  push_cast
  field_simp

theorem grid_bounds (hden : 0 < i.den) (k : ℤ) :
    ((i.value * scaleOf k / unitOf i k : ℕ) : ℚ) * 10 ^ k ≤ i.middle ∧
      i.middle < ((i.value * scaleOf k / unitOf i k + 1 : ℕ) : ℚ) * 10 ^ k := by
  have hd : (0 : ℚ) < i.den := by exact_mod_cast hden
  have hs : (0 : ℚ) < scaleOf k := by exact_mod_cast scaleOf_pos k
  have hu : 0 < unitOf i k := by
    have h : (0 : ℚ) < unitOf i k / (scaleOf k * i.den) := unitOf_div hden k ▸ by positivity
    exact_mod_cast (div_pos_iff_of_pos_right (by positivity)).1 h
  rw [middle_eq hden k, ← unitOf_div hden k, ← mul_div_assoc, ← mul_div_assoc,
    div_le_div_iff_of_pos_right (by positivity), div_lt_div_iff_of_pos_right (by positivity)]
  have hupper := Nat.lt_mul_div_succ (i.value * scaleOf k) hu
  rw [mul_comm (unitOf i k)] at hupper
  exact ⟨by exact_mod_cast Nat.div_mul_le_self _ _, by exact_mod_cast hupper⟩

/-- The neighbour that is taken: the lower one if it is the value, and otherwise one that is
contained.  One is taken unless neither is. -/
theorem onGrid_cases (tie : TieRule) (i : Interval) (k : ℤ) :
    let n := i.value * scaleOf k / unitOf i k
    let lower := i.contains (n * unitOf i k) (scaleOf k)
    let upper := i.contains ((n + 1) * unitOf i k) (scaleOf k)
    (onGrid tie i k = some n ∧ (i.value * scaleOf k % unitOf i k = 0 ∨ lower = true)) ∨
      (onGrid tie i k = some (n + 1) ∧ upper = true) ∨
      (onGrid tie i k = none ∧ lower = false ∧ upper = false) := by
  intro n lower upper
  have hshape : onGrid tie i k =
      if i.value * scaleOf k % unitOf i k = 0 then some n
      else if lower && upper then
        if 2 * (i.value * scaleOf k % unitOf i k) < unitOf i k then some n
        else if unitOf i k < 2 * (i.value * scaleOf k % unitOf i k) then some (n + 1)
        else if tie = .up then some (n + 1)
        else some (if n % 2 = 0 then n else n + 1)
      else if lower then some n
      else if upper then some (n + 1)
      else none := by cases tie <;> rfl
  rw [hshape]
  by_cases hexact : i.value * scaleOf k % unitOf i k = 0
  · exact Or.inl ⟨if_pos hexact, Or.inl hexact⟩
  rw [if_neg hexact]
  cases lower with
  | false =>
      cases upper with
      | false => exact Or.inr (Or.inr ⟨rfl, rfl, rfl⟩)
      | true => exact Or.inr (Or.inl ⟨rfl, rfl⟩)
  | true =>
      cases upper with
      | false => exact Or.inl ⟨rfl, Or.inr rfl⟩
      | true =>
          -- both neighbours round to the value, and either may be taken
          simp only [Bool.and_self, if_true, reduceCtorEq, and_true, false_and, or_true]
          split_ifs <;> simp

/-- What is taken on a grid is good. -/
theorem onGrid_good (hden : 0 < i.den) {n : ℕ} (h : onGrid tie i k = some n) :
    Good i (n * 10 ^ k) := by
  have hcontains := contains_grid (i := i) hden k
  rcases onGrid_cases tie i k with ⟨htaken, hexact | hlower⟩ | ⟨htaken, hupper⟩ | ⟨htaken, -⟩ <;>
    rw [h] at htaken
  · left
    have hvalue : n * unitOf i k = i.value * scaleOf k :=
      Option.some.inj htaken ▸ Nat.div_mul_cancel (Nat.dvd_of_mod_eq_zero hexact)
    rw [middle_eq hden k, ← unitOf_div hden k, ← mul_div_assoc, ← Nat.cast_mul, hvalue]
  · exact Or.inr ((hcontains n).1 (Option.some.inj htaken ▸ hlower))
  · exact Or.inr ((hcontains n).1 (Option.some.inj htaken ▸ hupper))
  · cases htaken

/-- A grid that is narrower than the interval has a decimal in it. -/
theorem exists_onGrid (tie : TieRule) (hden : 0 < i.den) (hlow : i.bottom < i.middle)
    (hhigh : i.middle < i.top) (hstep : (10 : ℚ) ^ k < i.top - i.bottom) :
    ∃ n, onGrid tie i k = some n := by
  have hcontains := contains_grid (i := i) hden k
  obtain ⟨hbelow, habove⟩ := grid_bounds hden k
  rcases onGrid_cases tie i k with ⟨htaken, -⟩ | ⟨htaken, -⟩ | ⟨-, hlower, hupper⟩
  · exact ⟨_, htaken⟩
  · exact ⟨_, htaken⟩
  · -- both neighbours lie outside, so the interval lies between them
    exfalso
    have hbottom : ((i.value * scaleOf k / unitOf i k : ℕ) : ℚ) * 10 ^ k ≤ i.bottom := by
      by_contra h
      rw [(hcontains _).2 ⟨Or.inl (not_le.1 h), Or.inl (hbelow.trans_lt hhigh)⟩] at hlower
      cases hlower
    have htop : i.top ≤ ((i.value * scaleOf k / unitOf i k + 1 : ℕ) : ℚ) * 10 ^ k := by
      by_contra h
      rw [(hcontains _).2 ⟨Or.inl (hlow.trans habove), Or.inl (not_le.1 h)⟩] at hupper
      cases hupper
    push_cast at htop
    linarith

/-! ### Search -/

/-- The search ends with a good decimal, if there is one on the last grid. -/
theorem search_good (hden : 0 < i.den) {top : ℤ} (fuel : ℕ) :
    ∀ {count : ℕ}, (∃ n, onGrid tie i (top + 1 - (count + fuel : ℕ)) = some n) →
      Good i ((search tie i top count (fuel + 1)).1 *
        10 ^ (search tie i top count (fuel + 1)).2) := by
  induction fuel with
  | zero =>
      rintro count ⟨n, hn⟩
      rw [Nat.add_zero] at hn
      simp only [search, hn]
      exact onGrid_good hden hn
  | succ fuel ih =>
      rintro count hlast
      rw [search]
      cases htaken : onGrid tie i (top + 1 - count) with
      | some n => exact onGrid_good hden htaken
      | none =>
          refine ih ?_
          rwa [show count + 1 + fuel = count + (fuel + 1) by omega]

theorem trim_eq (n : ℕ) (k : ℤ) (fuel : ℕ) :
    ((trim n k fuel).1 : ℚ) * 10 ^ (trim n k fuel).2 = n * 10 ^ k := by
  induction fuel generalizing n k with
  | zero => rfl
  | succ fuel ih =>
      rw [trim]
      split
      case isTrue h =>
        have hn : ((n / 10 : ℕ) : ℚ) * 10 = n := by
          exact_mod_cast Nat.div_mul_cancel (Nat.dvd_of_mod_eq_zero h.2)
        rw [ih, zpow_add_one₀ (by norm_num), ← mul_assoc, mul_right_comm, hn]
      case isFalse => rfl

theorem leadingExponent_le {num den : ℕ} (hnum : 0 < num) (hden : 0 < den) :
    (10 : ℚ) ^ leadingExponent num den ≤ num / den := by
  have hn : (0 : ℚ) < num := by exact_mod_cast hnum
  have hd : (0 : ℚ) < den := by exact_mod_cast hden
  unfold leadingExponent
  split_ifs with hge
  · have hpos : 0 < num / den := Nat.div_pos hge hden
    have hcount : 0 < Decimal.digitCount (num / den) := Nat.length_toDigits_pos
    have hlow := (Decimal.digitCount_bounds hpos).1
    rw [show (Decimal.digitCount (num / den) : ℤ) - 1 =
      (Decimal.digitCount (num / den) - 1 : ℕ) by omega, zpow_natCast]
    calc (10 : ℚ) ^ (Decimal.digitCount (num / den) - 1) ≤ (num / den : ℕ) := by
          exact_mod_cast hlow
      _ ≤ num / den := Nat.cast_div_le
  · have hpos : 0 < den / num := Nat.div_pos (by omega) hnum
    have hcount : 0 < Decimal.digitCount (den / num) := Nat.length_toDigits_pos
    have hhigh := (Decimal.digitCount_bounds hpos).2
    dsimp only
    generalize Decimal.digitCount (den / num) = l at hcount hhigh
    split_ifs with hexact
    · have hq : (num : ℚ) * 10 ^ (l - 1) = den := by exact_mod_cast hexact
      rw [show (1 : ℤ) - l = -((l - 1 : ℕ) : ℤ) by omega, zpow_neg, zpow_natCast, ← hq]
      exact le_of_eq (by field_simp)
    · have hlt : den < num * 10 ^ l := by
        rw [mul_comm]
        exact (Nat.div_lt_iff_lt_mul hnum).1 hhigh
      have hq : (den : ℚ) < num * 10 ^ l := by exact_mod_cast hlt
      rw [zpow_neg, zpow_natCast, inv_le_iff_one_le_mul₀ (by positivity), ← mul_div_right_comm,
        one_le_div hd]
      exact hq.le

/-! ### Doubles -/

section double

variable {b : Binary}

theorem ofBinary_den_pos : 0 < (Interval.ofBinary b).den := by
  unfold Interval.ofBinary
  by_cases he : b.exponent - 2 < 0
  · simp only [he, if_true, Nat.pow_eq]
    positivity
  · simp only [he, if_false, Nat.one_pos]

/-- The ends and the value in quarters of a gap. -/
theorem ofBinary_eq (b : Binary) :
    (Interval.ofBinary b).bottom =
        (4 * b.significand - (if b.narrowBelow then 1 else 2) : ℕ) * 2 ^ (b.exponent - 2) ∧
      (Interval.ofBinary b).middle = (4 * b.significand : ℕ) * 2 ^ (b.exponent - 2) ∧
      (Interval.ofBinary b).top = (4 * b.significand + 2 : ℕ) * 2 ^ (b.exponent - 2) := by
  have hpow {e : ℤ} (h : 0 ≤ e) : ((2 ^ e.toNat : ℕ) : ℚ) = 2 ^ e := by
    rw [← Int.toNat_of_nonneg h, zpow_natCast]
    push_cast
    rfl
  unfold Interval.bottom Interval.middle Interval.top Interval.ofBinary
  by_cases he : b.exponent - 2 < 0
  · have hden : ((2 ^ (2 - b.exponent).toNat : ℕ) : ℚ) = (2 ^ (b.exponent - 2))⁻¹ := by
      rw [hpow (by omega), ← zpow_neg, neg_sub]
    simp only [he, if_true, mul_one, Nat.pow_eq, hden, div_inv_eq_mul]
    exact ⟨trivial, trivial, trivial⟩
  · simp only [he, if_false, Nat.pow_eq, Nat.cast_one, div_one, Nat.cast_mul, hpow (not_lt.1 he)]
    exact ⟨trivial, trivial, trivial⟩

variable {negative : Bool} {n : ℕ}

/-- The interval of a double ends halfway to its neighbours. -/
theorem interval_ends (hpos : 0 < b.significand) (hgrid : n = grid b.exponent b.significand)
    (hexp : -1074 ≤ b.exponent) (hsig : b.significand < 2 ^ 53)
    (hcanon : 2 ^ 52 ≤ b.significand ∨ b.exponent = -1074)
    (hnarrow : b.narrowBelow = true ↔ b.significand = 2 ^ 52 ∧ -1074 < b.exponent) :
    2 * (Interval.ofBinary b).bottom = value (n - 1) + value n ∧
      (Interval.ofBinary b).middle = value n ∧
      2 * (Interval.ofBinary b).top = value n + value (n + 1) := by
  obtain ⟨hbottom, hmiddle, htop⟩ := ofBinary_eq b
  obtain ⟨_, m, e, narrow⟩ := b
  simp only at hpos hgrid hexp hsig hcanon hnarrow hbottom hmiddle htop
  have hquarter : (2 : ℚ) ^ e = 4 * 2 ^ (e - 2) := by
    rw [zpow_sub₀ two_ne_zero]
    norm_num
    ring
  have hhalf : (2 : ℚ) ^ (e - 1) = 2 * 2 ^ (e - 2) := by
    rw [zpow_sub₀ two_ne_zero, zpow_sub₀ two_ne_zero]
    norm_num
    ring
  have hvalue : value n = m * 2 ^ e := by rw [hgrid, value_grid hexp hsig.le hcanon]
  have hsucc : value (n + 1) = (m + 1 : ℕ) * 2 ^ e := by
    rw [show n + 1 = grid e (m + 1) by unfold grid at hgrid ⊢; omega,
      value_grid hexp (by omega) (by omega)]
  rw [hbottom, hmiddle, htop, hvalue, hsucc]
  refine ⟨?_, by push_cast [hquarter]; ring, by push_cast [hquarter]; ring⟩
  cases hn : narrow with
  | true =>
      obtain ⟨rfl, he⟩ := hnarrow.1 hn
      have hpred : value (n - 1) = (2 ^ 53 - 1 : ℕ) * 2 ^ (e - 1) := by
        rw [show n - 1 = grid (e - 1) (2 ^ 53 - 1) by unfold grid at hgrid ⊢; omega,
          value_grid (by omega) (by norm_num) (Or.inl (by norm_num))]
      rw [hpred, hquarter, hhalf]
      norm_num
      ring
  | false =>
      have hwide : 2 ^ 52 ≤ m - 1 ∨ e = -1074 := by
        have : ¬ (m = 2 ^ 52 ∧ -1074 < e) := fun h => by simp [hnarrow.2 h] at hn
        omega
      have hpred : value (n - 1) = (m - 1 : ℕ) * 2 ^ e := by
        rw [show n - 1 = grid e (m - 1) by unfold grid at hgrid ⊢; omega,
          value_grid hexp (by omega) hwide]
      rw [hpred, hquarter, if_neg Bool.false_ne_true, Nat.cast_sub (show 1 ≤ m from hpos),
        Nat.cast_sub (show 2 ≤ 4 * m by omega)]
      push_cast
      ring

/-- **Rounding a good decimal** gives the double back. -/
theorem nearest_of_good (hn : n < infinity) {y : ℚ}
    (hpos : 0 < (Binary.ofFloat (ofBits negative n)).significand)
    (hgood : Good (Interval.ofBinary (Binary.ofFloat (ofBits negative n))) y) : nearest y = n := by
  obtain ⟨hgrid, hexp, hsig, hcanon, hnarrow⟩ := grid_ofFloat negative hn
  obtain ⟨hbottom, hmiddle, htop⟩ := interval_ends hpos hgrid hexp hsig hcanon hnarrow
  have heven : (Interval.ofBinary (Binary.ofFloat (ofBits negative n))).closed = true → Even n := by
    intro hclosed
    have hsignificand : (Binary.ofFloat (ofBits negative n)).significand % 2 = 0 := by
      simpa [Interval.ofBinary] using hclosed
    rw [Nat.even_iff, hgrid, grid]
    omega
  have hn0 : 0 < n := by
    rw [hgrid, grid]
    omega
  have hbelow : value (n - 1) < value n := value_strictMono (by omega)
  have habove : value n < value (n + 1) := value_strictMono (by omega)
  rcases hgood with rfl | ⟨hlow, hhigh⟩
  · refine nearest_of_between hn0 hn (by linarith) (by linarith) ?_
    rintro (h | h) <;> linarith
  · refine nearest_of_between hn0 hn ?_ ?_ ?_
    · rcases hlow with h | ⟨-, h⟩ <;> linarith
    · rcases hhigh with h | ⟨-, h⟩ <;> linarith
    · rintro (h | h)
      · rcases hlow with hlt | ⟨hclosed, -⟩
        · linarith
        · exact heven hclosed
      · rcases hhigh with hlt | ⟨hclosed, -⟩
        · linarith
        · exact heven hclosed

/-- The grid of 17 digits is narrower than the interval. -/
theorem grid_narrow (hpos : 0 < b.significand) (hsig : b.significand < 2 ^ 53)
    (hnarrow : b.narrowBelow = true → b.significand = 2 ^ 52) :
    let i := Interval.ofBinary b
    (10 : ℚ) ^ (leadingExponent i.value i.den - 16) < i.top - i.bottom := by
  intro i
  obtain ⟨hbottom, hmiddle, htop⟩ := ofBinary_eq b
  have hquarter : (0 : ℚ) < 2 ^ (b.exponent - 2) := by positivity
  have hden : 0 < i.den := ofBinary_den_pos
  have hvalue : 0 < i.value := by
    have h : (0 : ℚ) < i.value / i.den := by
      change 0 < i.middle
      rw [hmiddle]
      positivity
    exact_mod_cast (div_pos_iff_of_pos_right (by exact_mod_cast hden)).1 h
  have hleading : (10 : ℚ) ^ leadingExponent i.value i.den ≤ i.middle :=
    leadingExponent_le hvalue hden
  rw [zpow_sub₀ (by norm_num), div_lt_iff₀ (by positivity)]
  refine hleading.trans_lt ?_
  rw [hmiddle, htop, hbottom, ← sub_mul, mul_right_comm]
  refine mul_lt_mul_of_pos_right ?_ hquarter
  cases hn : b.narrowBelow with
  | true =>
      rw [hnarrow hn]
      norm_num
  | false =>
      have hm : (b.significand : ℚ) < 9007199254740992 := by exact_mod_cast hsig
      rw [if_neg Bool.false_ne_true, Nat.cast_sub (show 2 ≤ 4 * b.significand by omega)]
      push_cast
      norm_num
      linarith

theorem negative_ofFloat (tie : TieRule) (x : Float) :
    (ofFloat tie x).negative = (Binary.ofFloat x).negative := by
  rw [ofFloat]
  by_cases h : (Binary.ofFloat x).significand = 0
  · rw [if_pos h]
  · rw [if_neg h]

theorem magnitude_ofFloat_of_zero (tie : TieRule) {x : Float}
    (h : (Binary.ofFloat x).significand = 0) : (ofFloat tie x).magnitude = 0 := by
  rw [ofFloat, if_pos h, Decimal.magnitude, Nat.cast_zero, zero_mul]

theorem magnitude_ofFloat_good (tie : TieRule) {x : Float}
    (h : 0 < (Binary.ofFloat x).significand)
    (hlast : let i := Interval.ofBinary (Binary.ofFloat x)
      ∃ n, onGrid tie i (leadingExponent i.value i.den - 16) = some n) :
    Good (Interval.ofBinary (Binary.ofFloat x)) (ofFloat tie x).magnitude := by
  rw [ofFloat, if_neg h.ne', Decimal.magnitude]
  dsimp only
  rw [trim_eq]
  refine search_good ofBinary_den_pos 16 ?_
  rw [show ∀ l : ℤ, l + 1 - (1 + 16 : ℕ) = l - 16 by intro l; omega]
  exact hlast

/-- **The shortest decimal reads back.** -/
theorem toFloat_ofFloat (tie : TieRule) {x : Float} (hx : x.isFinite = true) :
    (ofFloat tie x).toFloat = x := by
  obtain ⟨negative, n, hn, rfl⟩ := exists_ofBits hx
  have hnegative := Double.negative_ofFloat negative hn
  obtain ⟨hgrid, hexp, hsig, hcanon, hnarrow⟩ := grid_ofFloat negative hn
  rw [Decimal.toFloat_eq, Shortest.negative_ofFloat, hnegative]
  congr 1
  by_cases hzero : (Binary.ofFloat (ofBits negative n)).significand = 0
  · rw [magnitude_ofFloat_of_zero tie hzero, nearest_zero, hgrid, grid]
    omega
  · have hpos := Nat.pos_of_ne_zero hzero
    obtain ⟨hbottom, hmiddle, htop⟩ := interval_ends hpos hgrid hexp hsig hcanon hnarrow
    have hbelow : value (n - 1) < value n := value_strictMono (by
      rw [hgrid, grid]
      omega)
    have habove : value n < value (n + 1) := value_strictMono (by omega)
    have hlast := exists_onGrid tie ofBinary_den_pos (by linarith) (by linarith)
      (grid_narrow hpos hsig fun h => (hnarrow.1 h).1)
    exact nearest_of_good hn hpos (magnitude_ofFloat_good tie hpos hlast)

end double

end Shortest
end PenPlotter
