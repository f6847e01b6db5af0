import PenPlotter.Proofs.Double.Rounding

/-! # The double that a numeral stands for

`toFloat_eq`: the double of a numeral is the one nearest to its exact value, with the sign of the
numeral also when it is zero. -/

namespace PenPlotter
namespace Double

open Float.Model Float.Model.UnpackedFloat

/-! ### Products and quotients -/

section arithmetic

variable {m₁ m₂ : ℕ} {e₁ e₂ : ℤ}

/-- A significand of 53 bits or more needs no smaller exponent. -/
theorem le_exponent {a : ℕ} {e : ℤ} (ha : 2 ^ 52 ≤ a) : e ≤ exponent (a * 2 ^ e) := by
  have hpos : (0 : ℚ) < a * 2 ^ e := by
    have : 0 < a := by omega
    positivity
  have hlog : 52 + e ≤ Int.log 2 ((a : ℚ) * 2 ^ e) := by
    rw [← Int.zpow_le_iff_le_log one_lt_two hpos, Nat.cast_ofNat, zpow_add₀ two_ne_zero]
    have : ((2 ^ 52 : ℕ) : ℚ) ≤ a := by exact_mod_cast ha
    refine mul_le_mul_of_nonneg_right (le_trans (le_of_eq ?_) this) (by positivity)
    norm_num
  unfold exponent
  omega

theorem toNat_pack_mul (h₁ : 0 < m₁) (h₂ : 0 < m₂) (h : 2 ^ 52 ≤ m₁ * m₂) :
    (pack .binary64 (UnpackedFloat.mul .binary64 (.finite .positive m₁ e₁ h₁)
      (.finite .positive m₂ e₂ h₂))).toNat = nearest (m₁ * 2 ^ e₁ * (m₂ * 2 ^ e₂)) := by
  have hx : (m₁ : ℚ) * 2 ^ e₁ * (m₂ * 2 ^ e₂) = (m₁ * m₂ : ℕ) / (1 : ℕ) * 2 ^ (e₁ + e₂) := by
    rw [zpow_add₀ two_ne_zero]
    push_cast
    ring
  have he : e₁ + e₂ ≤ exponent ((m₁ : ℚ) * 2 ^ e₁ * (m₂ * 2 ^ e₂)) := by
    rw [hx, Nat.cast_one, div_one]
    exact le_exponent h
  have hround := toNat_pack_round .positive Nat.one_pos hx (by positivity) he
  rw [Nat.div_one, Nat.mod_one, weight, Nat.zero_add] at hround
  exact hround

theorem le_log_div (h₁ : 0 < m₁) (h₂ : 0 < m₂) :
    (m₁.log2 + e₁) - (m₂.log2 + 1 + e₂) ≤ Int.log 2 ((m₁ : ℚ) * 2 ^ e₁ / (m₂ * 2 ^ e₂)) := by
  rw [← Int.zpow_le_iff_le_log one_lt_two (by positivity), Nat.cast_ofNat, zpow_sub₀ two_ne_zero]
  refine div_le_div₀ (by positivity) ?_ (by positivity) ?_
  · rw [zpow_add₀ two_ne_zero, zpow_natCast]
    refine mul_le_mul_of_nonneg_right ?_ (by positivity)
    exact_mod_cast Nat.log2_self_le h₁.ne'
  · rw [zpow_add₀ two_ne_zero]
    refine mul_le_mul_of_nonneg_right ?_ (by positivity)
    exact_mod_cast (Nat.lt_log2_self (n := m₂)).le

theorem toNat_pack_div (h₁ : 0 < m₁) (h₂ : 0 < m₂) :
    (pack .binary64 (UnpackedFloat.div .binary64 (.finite .positive m₁ e₁ h₁)
      (.finite .positive m₂ e₂ h₂))).toNat = nearest (m₁ * 2 ^ e₁ / (m₂ * 2 ^ e₂)) := by
  set t := min (e₁ - e₂) (Format.binary64.targetExponent (totalExponent m₁ e₁ - totalExponent m₂ e₂))
    with ht
  set x : ℚ := m₁ * 2 ^ e₁ / (m₂ * 2 ^ e₂) with hx_def
  have hpos : 0 < x := by positivity
  have hx : x = (m₁ <<< (e₁ - e₂ - t).toNat : ℕ) / m₂ * 2 ^ t := by
    have hpow : (2 : ℚ) ^ (e₁ - e₂ - t).toNat * 2 ^ t = 2 ^ e₁ / 2 ^ e₂ := by
      rw [← zpow_natCast, ← zpow_add₀ two_ne_zero, ← zpow_sub₀ two_ne_zero]
      congr 1
      omega
    rw [Nat.shiftLeft_eq, Nat.cast_mul, Nat.cast_pow, Nat.cast_ofNat, div_mul_eq_mul_div, mul_assoc,
      hpow, hx_def]
    field_simp
  have he : t ≤ exponent x := by
    have hlog : (m₁.log2 + e₁) - (m₂.log2 + 1 + e₂) ≤ Int.log 2 x := le_log_div h₁ h₂
    have hbits : (Format.binary64.mantissaBits : ℤ) = 53 := by decide
    have hmin : Format.binary64.minExponent = -1074 := by decide
    rw [ht]
    unfold exponent Format.targetExponent totalExponent
    rw [hbits, hmin]
    omega
  have hround := toNat_pack_round .positive h₂ hx hpos he
  rw [weight, Nat.zero_add] at hround
  exact hround

end arithmetic

/-! ### Exact doubles -/

section exact

/-- The double is the whole number `n` and has a significand of 53 bits. -/
def Exact (x : Float) (n : ℕ) : Prop :=
  ∃ p k, ∃ h : 0 < p, x.toModel.unpack = .finite .positive p k h ∧ 2 ^ 52 ≤ p ∧ (p : ℚ) * 2 ^ k = n

theorem roundWithAccuracy_exact (s : Sign) {r : ℕ} {t : ℤ} (hlow : 2 ^ 52 ≤ r) (hr : r < 2 ^ 53)
    (ht : -1074 ≤ t) :
    roundWithAccuracy .binary64 s r t .exact = .finite s r t (by omega) := by
  have hlog : r.log2 = 52 := by
    have h1 := (Nat.le_log2 (by omega)).mpr hlow
    have h2 := (Nat.log2_lt (by omega)).mpr hr
    omega
  have hzero : (Format.binary64.targetExponent (totalExponent r t) - t).toNat = 0 := by
    rw [targetExponent_eq, hlog]
    omega
  have hshift : shiftToTargetExponent .binary64 r t .exact = (⟨r, false, false⟩, t) := by
    unfold shiftToTargetExponent shiftToExponent
    dsimp only
    rw [hzero, Nat.cast_zero, add_zero]
    rfl
  have hr0 : r ≠ 0 := by omega
  exact (roundWithAccuracy_of_shifts s hshift hshift).trans (dif_neg hr0)

theorem shifted_bounds {m : ℕ} (hm : 0 < m) (hlt : m < 2 ^ 53) :
    2 ^ 52 ≤ m * 2 ^ (52 - m.log2) ∧ m * 2 ^ (52 - m.log2) < 2 ^ 53 := by
  have hlog : m.log2 < 53 := (Nat.log2_lt hm.ne').mpr hlt
  have hsplit : 2 ^ m.log2 * 2 ^ (52 - m.log2) = 2 ^ 52 := by
    rw [← pow_add]
    congr 1
    omega
  constructor
  · rw [← hsplit]
    exact Nat.mul_le_mul_right _ (Nat.log2_self_le hm.ne')
  · calc m * 2 ^ (52 - m.log2) < 2 ^ (m.log2 + 1) * 2 ^ (52 - m.log2) :=
          Nat.mul_lt_mul_of_pos_right Nat.lt_log2_self (by positivity)
      _ = 2 * 2 ^ 52 := by rw [pow_succ', mul_assoc, hsplit]
      _ = 2 ^ 53 := by norm_num

theorem ofUInt64_eq {m : ℕ} (hm : 0 < m) (hlt : m < 2 ^ 53) (hpos : 0 < m * 2 ^ (52 - m.log2)) :
    UnpackedFloat.ofUInt64 .binary64 m.toUInt64 =
      .finite .positive (m * 2 ^ (52 - m.log2)) (0 - (52 - m.log2 : ℕ)) hpos := by
  have hlog : m.log2 < 53 := (Nat.log2_lt hm.ne').mpr hlt
  have hto : (m.toUInt64.toNat : ℤ) = m := by
    have : m.toUInt64.toNat = m := Nat.mod_eq_of_lt (by omega)
    rw [this]
  have hk : (0 - Format.binary64.targetExponent (totalExponent m 0)).toNat = 52 - m.log2 := by
    rw [targetExponent_eq]
    omega
  have hcmp : compare (m : ℤ) 0 = .gt := Int.compare_eq_gt.mpr (by omega)
  obtain ⟨hlow, hhigh⟩ := shifted_bounds hm hlt
  unfold UnpackedFloat.ofUInt64 UnpackedFloat.ofNat UnpackedFloat.ofInt UnpackedFloat.normalize
  rw [hto, hcmp]
  dsimp only
  unfold UnpackedFloat.round decreaseExponent
  dsimp only
  rw [Int.toNat_natCast, hk, Nat.shiftLeft_eq]
  exact roundWithAccuracy_exact .positive hlow hhigh (by omega)

theorem exact_toFloat {m : ℕ} (hm : 0 < m) (hlt : m < 2 ^ 53) : Exact m.toUInt64.toFloat m := by
  have hlog : m.log2 < 53 := (Nat.log2_lt hm.ne').mpr hlt
  obtain ⟨hlow, hhigh⟩ := shifted_bounds hm hlt
  have hmodel : m.toUInt64.toFloat.toModel.unpack =
      unpack .binary64 (pack .binary64 (UnpackedFloat.ofUInt64 .binary64 m.toUInt64)) := rfl
  refine ⟨m * 2 ^ (52 - m.log2), 0 - (52 - m.log2 : ℕ), by positivity, ?_, hlow, ?_⟩
  · rw [hmodel, ofUInt64_eq hm hlt (by positivity)]
    exact unpack_pack_finite (by omega) (by omega) hlow hhigh
  · rw [zero_sub, zpow_neg, zpow_natCast]
    push_cast
    field_simp

/-- A test for small exact whole numbers that can be run. -/
def isExact (x : Float) (n : ℕ) : Bool :=
  match x.toModel.unpack with
  | .finite .positive p k _ =>
    decide (2 ^ 52 ≤ p ∧ -60 ≤ k ∧ p * 2 ^ (k + 60).toNat = n * 2 ^ 60)
  | _ => false

theorem exact_of_isExact {x : Float} {n : ℕ} (h : isExact x n) : Exact x n := by
  unfold isExact at h
  split at h
  · rename_i p k hp hu
    obtain ⟨hlow, hk, heq⟩ := of_decide_eq_true h
    refine ⟨p, k, hp, hu, hlow, ?_⟩
    have hcast : (p : ℚ) * 2 ^ (k + 60) = n * 2 ^ (60 : ℤ) := by
      rw [← Int.toNat_of_nonneg (by omega : 0 ≤ k + 60), zpow_natCast, zpow_ofNat]
      exact_mod_cast heq
    rw [zpow_add₀ two_ne_zero, ← mul_assoc] at hcast
    exact mul_right_cancel₀ (by positivity) hcast
  · cases h

theorem exact_power {e : ℕ} (he : e < 23) :
    Exact Float.exactlyRepresentablePowersOfTen[e] (10 ^ e) := by
  have hall : ∀ i : Fin 23, isExact Float.exactlyRepresentablePowersOfTen[i.1] (10 ^ i.1) := by
    decide
  exact exact_of_isExact (hall ⟨e, he⟩)

theorem mul_of_exact {x y : Float} {a b : ℕ} (hx : Exact x a) (hy : Exact y b) :
    x * y = ofBits false (nearest (a * b)) := by
  obtain ⟨p, k, hp, hux, hlow, hvx⟩ := hx
  obtain ⟨q, l, hq, huy, _, hvy⟩ := hy
  have hmul : x * y =
      Float.ofModel (.pack (UnpackedFloat.mul .binary64 x.toModel.unpack y.toModel.unpack)) := rfl
  rw [hmul, hux, huy]
  refine ofModel_pack (nearest_le_infinity _) ?_
  rw [toNat_pack_mul hp hq (le_trans hlow (Nat.le_mul_of_pos_right p hq)), hvx, hvy]
  exact (Nat.zero_add _).symm

theorem div_of_exact {x y : Float} {a b : ℕ} (hx : Exact x a) (hy : Exact y b) :
    x / y = ofBits false (nearest (a / b)) := by
  obtain ⟨p, k, hp, hux, _, hvx⟩ := hx
  obtain ⟨q, l, hq, huy, _, hvy⟩ := hy
  have hdiv : x / y =
      Float.ofModel (.pack (UnpackedFloat.div .binary64 x.toModel.unpack y.toModel.unpack)) := rfl
  rw [hdiv, hux, huy]
  refine ofModel_pack (nearest_le_infinity _) ?_
  rw [toNat_pack_div hp hq, hvx, hvy]
  exact (Nat.zero_add _).symm

end exact

/-! ### Numerals -/

section scientific

variable {m : ℕ}

theorem nearest_of_power_le {x : ℚ} (hx : 10 ^ (400 : ℤ) ≤ x) : nearest x = infinity := by
  refine nearest_of_large (le_trans ?_ hx)
  calc (2 : ℚ) ^ (1024 : ℤ) ≤ 2 ^ (3 * 400 : ℤ) := zpow_le_zpow_right₀ one_le_two (by norm_num)
    _ = (2 ^ (3 : ℤ)) ^ (400 : ℤ) := zpow_mul 2 3 400
    _ ≤ 10 ^ (400 : ℤ) := zpow_le_zpow_left₀ (by norm_num) (by positivity) (by norm_num)

/-- Small powers of ten are too small for any double but zero. -/
theorem nearest_of_le_power {x : ℚ} (hx : 0 ≤ x) (hsmall : x ≤ 10 ^ (-400 : ℤ)) :
    nearest x = 0 := by
  refine nearest_of_small hx (hsmall.trans ?_)
  have hpow : (2 ^ (3 : ℤ) : ℚ) ^ (400 : ℤ) ≤ 10 ^ (400 : ℤ) :=
    zpow_le_zpow_left₀ (by norm_num) (by positivity) (by norm_num)
  calc (10 : ℚ) ^ (-400 : ℤ) = (10 ^ (400 : ℤ))⁻¹ := zpow_neg 10 400
    _ ≤ ((2 ^ (3 : ℤ)) ^ (400 : ℤ))⁻¹ := inv_anti₀ (by positivity) hpow
    _ = 2 ^ (-(3 * 400) : ℤ) := by rw [← zpow_mul, zpow_neg]
    _ ≤ 2 ^ (-1075 : ℤ) := zpow_le_zpow_right₀ one_le_two (by norm_num)

theorem nearest_of_large_exponent (hm : 0 < m) {e : ℤ} (he : 2 ^ 11 < e) :
    nearest (m * 10 ^ e) = infinity := by
  have hone : (1 : ℚ) ≤ m := by exact_mod_cast hm
  have hpow : (10 : ℚ) ^ (400 : ℤ) ≤ 10 ^ e := zpow_le_zpow_right₀ (by norm_num) (by omega)
  exact nearest_of_power_le (hpow.trans (le_mul_of_one_le_left (by positivity) hone))

theorem nearest_of_small_exponent {e : ℤ} (he : e < -(2 ^ 11 + m.log2)) :
    nearest (m * 10 ^ e) = 0 := by
  have hlog : (m : ℚ) ≤ 10 ^ (m.log2 + 1 : ℤ) := by
    calc (m : ℚ) ≤ (2 ^ (m.log2 + 1) : ℕ) := by exact_mod_cast (Nat.lt_log2_self (n := m)).le
      _ ≤ (10 ^ (m.log2 + 1) : ℕ) := by exact_mod_cast Nat.pow_le_pow_left (by norm_num) _
      _ = 10 ^ (m.log2 + 1 : ℤ) := by push_cast; exact (zpow_natCast 10 (m.log2 + 1)).symm
  refine nearest_of_le_power (by positivity) ?_
  calc (m : ℚ) * 10 ^ e ≤ 10 ^ (m.log2 + 1 : ℤ) * 10 ^ e :=
        mul_le_mul_of_nonneg_right hlog (by positivity)
    _ = 10 ^ (m.log2 + 1 + e : ℤ) := (zpow_add₀ (by norm_num) _ _).symm
    _ ≤ 10 ^ (-400 : ℤ) := zpow_le_zpow_right₀ (by norm_num) (by omega)

theorem cast_ten_pow {e : ℤ} (h : 0 ≤ e) : ((10 ^ e.toNat : ℕ) : ℚ) = 10 ^ e := by
  rw [← Int.toNat_of_nonneg h, zpow_natCast]
  push_cast
  rfl

/-- The digits times a power of ten.  They are shifted first, so that no bit is missing. -/
theorem toNat_pack_power {e : ℤ} (h0 : 0 ≤ e) {p : ℕ} (hp : p = m * 2 ^ 53) (hpos : 0 < p)
    (hten : 0 < 10 ^ e.toNat) :
    (pack .binary64 (UnpackedFloat.mul .binary64 (.finite .positive p (-53) hpos)
      (.finite .positive (10 ^ e.toNat) 0 hten))).toNat = nearest (m * 10 ^ e) := by
  have hlong : 2 ^ 52 ≤ p * 10 ^ e.toNat := le_trans (by omega) (Nat.le_mul_of_pos_right _ hten)
  refine (toNat_pack_mul hpos hten hlong).trans (congrArg nearest ?_)
  rw [hp, cast_ten_pow h0]
  push_cast
  rw [zpow_neg, zpow_ofNat]
  field_simp
  norm_num

theorem toNat_pack_fraction (hm : 0 < m) {e : ℤ} (h0 : 0 ≤ -e) (hten : 0 < 10 ^ (-e).toNat) :
    (pack .binary64 (UnpackedFloat.div .binary64 (.finite .positive m 0 hm)
      (.finite .positive (10 ^ (-e).toNat) 0 hten))).toNat = nearest (m * 10 ^ e) := by
  refine (toNat_pack_div hm hten).trans (congrArg nearest ?_)
  rw [cast_ten_pow h0, zpow_neg]
  field_simp

/-- The general reading of a numeral. -/
theorem toNat_pack_ofScientific (hm : 0 < m) (e : ℤ) :
    (pack .binary64 (UnpackedFloat.ofScientific .binary64 m e)).toNat = nearest (m * 10 ^ e) := by
  unfold UnpackedFloat.ofScientific
  rw [dif_neg hm.ne']
  by_cases hlarge : (2 : ℤ) ^ 11 < e
  · rw [if_pos hlarge, nearest_of_large_exponent hm hlarge]
    rfl
  rw [if_neg hlarge]
  by_cases hsmall : e < -((2 : ℤ) ^ 11 + m.log2)
  · rw [if_pos hsmall, nearest_of_small_exponent hsmall]
    rfl
  rw [if_neg hsmall]
  by_cases h0 : 0 ≤ e
  · rw [if_pos h0]
    exact toNat_pack_power h0 (Nat.shiftLeft_eq m 53) _ _
  · rw [if_neg h0]
    exact toNat_pack_fraction hm (by omega) _

/-- **A scientific numeral** is read as the double nearest to it, also on the short way. -/
theorem ofScientific_eq (hm : 0 < m) (negative : Bool) (e : ℕ) :
    Float.ofScientific m negative e =
      ofBits false (nearest (m * 10 ^ (if negative then -(e : ℤ) else e))) := by
  have hten : ((10 ^ e : ℕ) : ℚ) = 10 ^ e := by push_cast; rfl
  unfold Float.ofScientific
  split_ifs with hshort hneg
  · have he : e < 23 := by omega
    refine (div_of_exact (exact_toFloat hm hshort.1) (exact_power he)).trans ?_
    rw [hten, zpow_neg, zpow_natCast, div_eq_mul_inv]
  · have he : e < 23 := by omega
    refine (mul_of_exact (exact_toFloat hm hshort.1) (exact_power he)).trans ?_
    rw [hten, zpow_natCast]
  · refine ofModel_pack (nearest_le_infinity _) ?_
    rw [toNat_pack_ofScientific hm, Int.negOfNat_eq]
    exact (Nat.zero_add _).symm
  · refine ofModel_pack (nearest_le_infinity _) ?_
    rw [toNat_pack_ofScientific hm]
    exact (Nat.zero_add _).symm

end scientific

end Double

/-! ### Numerals -/

namespace Decimal

open Double

def magnitude (d : Decimal) : ℚ := d.coefficient * 10 ^ d.exponent

theorem digitCount_bounds {n : ℕ} (hn : 0 < n) :
    10 ^ (digitCount n - 1) ≤ n ∧ n < 10 ^ digitCount n := by
  have hpos : 0 < digitCount n := Nat.length_toDigits_pos
  have hle (k : ℕ) (hk : 0 < k) : digitCount n ≤ k ↔ n < 10 ^ k :=
    Nat.length_toDigits_le_iff (by norm_num) hk
  refine ⟨?_, (hle _ hpos).mp le_rfl⟩
  rcases Nat.eq_zero_or_pos (digitCount n - 1) with h0 | h1
  · rw [h0]
    exact hn
  · have h := mt (hle _ h1).mpr (by omega)
    exact not_lt.mp h

variable (d : Decimal)

theorem magnitude_nonneg : 0 ≤ d.magnitude := by unfold magnitude; positivity

/-- With many digits before the point a numeral is beyond the range. -/
theorem nearest_of_top_large (hd : 0 < d.coefficient)
    (htop : 400 < digitCount d.coefficient + d.exponent) : nearest d.magnitude = infinity := by
  have hlow : ((10 ^ (digitCount d.coefficient - 1) : ℕ) : ℚ) ≤ d.coefficient := by
    exact_mod_cast (digitCount_bounds hd).1
  refine nearest_of_power_le ?_
  calc (10 : ℚ) ^ (400 : ℤ)
      ≤ 10 ^ ((digitCount d.coefficient - 1 : ℕ) + d.exponent) :=
        zpow_le_zpow_right₀ (by norm_num) (by omega)
    _ = ((10 ^ (digitCount d.coefficient - 1) : ℕ) : ℚ) * 10 ^ d.exponent := by
        rw [zpow_add₀ (by norm_num), zpow_natCast]
        push_cast
        rfl
    _ ≤ d.magnitude := mul_le_mul_of_nonneg_right hlow (by positivity)

/-- With many zeros after the point a numeral is too small for any double but zero. -/
theorem nearest_of_top_small (hd : 0 < d.coefficient)
    (htop : digitCount d.coefficient + d.exponent < -400) : nearest d.magnitude = 0 := by
  have hhigh : (d.coefficient : ℚ) ≤ (10 ^ digitCount d.coefficient : ℕ) := by
    exact_mod_cast (digitCount_bounds hd).2.le
  refine nearest_of_le_power d.magnitude_nonneg ?_
  calc d.magnitude ≤ ((10 ^ digitCount d.coefficient : ℕ) : ℚ) * 10 ^ d.exponent :=
        mul_le_mul_of_nonneg_right hhigh (by positivity)
    _ = 10 ^ (digitCount d.coefficient + d.exponent) := by
        rw [zpow_add₀ (by norm_num), zpow_natCast]
        push_cast
        rfl
    _ ≤ 10 ^ (-400 : ℤ) := zpow_le_zpow_right₀ (by norm_num) htop.le

/-- **A numeral stands for the double nearest to its exact value**, with its sign. -/
theorem toFloat_eq : d.toFloat = ofBits d.negative (nearest d.magnitude) := by
  have hsign {x : Float} (hx : x = ofBits false (nearest d.magnitude)) :
      (if d.negative then -x else x) = ofBits d.negative (nearest d.magnitude) := by
    cases d.negative with
    | true => rw [if_pos rfl, hx, neg_ofBits (nearest_le_infinity _)]
    | false => exact hx
  refine hsign ?_
  rcases Nat.eq_zero_or_pos d.coefficient with h0 | hd
  · have hzero : (0.0 : Float) = ofBits false 0 := by decide
    rw [if_pos h0, hzero, magnitude, h0, Nat.cast_zero, zero_mul, nearest_zero]
  rw [if_neg hd.ne']
  dsimp only
  split_ifs with hlarge hsmall hneg
  · have hinf : (1.0 / 0.0 : Float) = ofBits false infinity := by decide
    rw [hinf, d.nearest_of_top_large hd hlarge]
  · have hzero : (0.0 : Float) = ofBits false 0 := by decide
    rw [hzero, d.nearest_of_top_small hd hsmall]
  · rw [ofScientific_eq hd, if_pos rfl, Int.toNat_of_nonneg (by omega), neg_neg, magnitude]
  · rw [ofScientific_eq hd, if_neg Bool.false_ne_true, Int.toNat_of_nonneg (by omega), magnitude]

end Decimal
end PenPlotter
