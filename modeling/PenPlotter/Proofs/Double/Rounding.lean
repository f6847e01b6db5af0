import PenPlotter.Proofs.Double.Bits

/-! # Rounded arithmetic

Products, quotients and decimal numerals of doubles are computed as a whole significand, an
exponent and the part that is cut off.  `toNat_pack_round` says that rounding such a datum gives
the double nearest to the number it stands for; the products and quotients of doubles, and
numerals `m · 10 ^ e`, follow from it. -/

namespace PenPlotter
namespace Double

open Float.Model Float.Model.UnpackedFloat

/-! ### Cutting bits off a quotient -/

section quotient

variable {a b : ℕ}

/-- The whole part of a quotient, with the first bit that is cut off and whether any other is
set. -/
def quotient (a b : ℕ) : ExtendedMantissa :=
  ⟨a / b, decide (b ≤ 2 * (a % b)), decide (2 * (a % b) % b ≠ 0)⟩

theorem quotient_of_lt (h : 2 * (a % b) < b) : quotient a b = ⟨a / b, false, decide (a % b ≠ 0)⟩ := by
  have hround : ¬ b ≤ 2 * (a % b) := by omega
  have hsticky : 2 * (a % b) ≠ 0 ↔ a % b ≠ 0 := by omega
  unfold quotient
  rw [decide_eq_false hround, Nat.mod_eq_of_lt h]
  simp only [hsticky]

theorem quotient_of_eq (h : 2 * (a % b) = b) : quotient a b = ⟨a / b, true, false⟩ := by
  unfold quotient
  rw [decide_eq_true h.ge, h, Nat.mod_self]
  rfl

theorem quotient_of_gt (hb : 0 < b) (h : b < 2 * (a % b)) : quotient a b = ⟨a / b, true, true⟩ := by
  have hlt := Nat.mod_lt a hb
  have hmod : 2 * (a % b) % b = 2 * (a % b) - b := by
    rw [Nat.mod_eq_sub_mod h.le, Nat.mod_eq_of_lt (by omega)]
  unfold quotient
  rw [decide_eq_true h.le, hmod, decide_eq_true (by omega)]

theorem ofMantissaAndAccuracy_quotient (hb : 0 < b) :
    ExtendedMantissa.ofMantissaAndAccuracy (a / b) (accuracyOfFraction (a % b) b) =
      quotient a b := by
  unfold accuracyOfFraction
  rcases Nat.lt_trichotomy (2 * (a % b)) b with h | h | h
  · rw [quotient_of_lt h, Nat.compare_eq_lt.mpr h]
    by_cases h0 : a % b = 0
    · rw [if_pos h0, decide_eq_false (not_not.mpr h0)]
      rfl
    · rw [if_neg h0, decide_eq_true h0]
      rfl
  · rw [quotient_of_eq h, if_neg (by omega), Nat.compare_eq_eq.mpr h]
    rfl
  · rw [quotient_of_gt hb h, if_neg (by omega), Nat.compare_eq_gt.mpr h]
    rfl

/-- To cut off one more bit is to double the divisor. -/
theorem shiftRightOne_quotient (hb : 0 < b) : (quotient a b).shiftRightOne = quotient a (2 * b) := by
  have hlt := Nat.mod_lt a hb
  have hdiv : a / (2 * b) = a / b / 2 := by rw [Nat.div_div_eq_div_mul, Nat.mul_comm]
  have hmod : a % (2 * b) = a % b + b * (a / b % 2) := by rw [Nat.mul_comm 2 b, Nat.mod_mul]
  have hsticky : 2 * (a % (2 * b)) % (2 * b) = 2 * (a % b) := by
    rw [Nat.mul_mod_mul_left, hmod, Nat.add_mul_mod_self_left, Nat.mod_mod]
  have hround : 2 * b ≤ 2 * (a % (2 * b)) ↔ a / b % 2 ≠ 0 := by
    rw [hmod]
    rcases Nat.mod_two_eq_zero_or_one (a / b) with h | h <;> rw [h] <;> omega
  have hbne (n : ℕ) : decide (n ≠ 0) = (n != 0) := by cases n <;> rfl
  have hdouble : quotient a (2 * b) = ⟨a / b / 2, a / b % 2 != 0, 2 * (a % b) != 0⟩ := by
    unfold quotient
    rw [hsticky, hdiv, decide_eq_decide.mpr hround, hbne, hbne]
  unfold ExtendedMantissa.shiftRightOne
  rw [hdouble]
  rcases Nat.lt_trichotomy (2 * (a % b)) b with h | h | h
  · rw [quotient_of_lt h]
    by_cases h0 : a % b = 0 <;> simp [h0]
  · rw [quotient_of_eq h]
    simp [h, hb.ne']
  · rw [quotient_of_gt hb h]
    have h0 : a % b ≠ 0 := by omega
    simp [h0]

theorem shiftRight_quotient (hb : 0 < b) (k : ℕ) : quotient a b >>> k = quotient a (2 ^ k * b) := by
  show Nat.repeat ExtendedMantissa.shiftRightOne k _ = _
  induction k with
  | zero => rw [Nat.pow_zero, Nat.one_mul, Nat.repeat]
  | succ k ih =>
      rw [Nat.repeat, ih, shiftRightOne_quotient (by positivity), pow_succ', mul_assoc]

theorem roundedMantissa_quotient (hb : 0 < b) :
    (quotient a b).roundedMantissa = Binary.roundDivEven a b := by
  unfold Binary.roundDivEven
  dsimp only
  rcases Nat.lt_trichotomy (2 * (a % b)) b with h | h | h
  · rw [quotient_of_lt h, if_pos h]
    by_cases h0 : a % b = 0 <;> simp only [h0, ne_eq, not_true, not_false_iff, decide_true, decide_false] <;> rfl
  · have heven : (⟨a / b, true, false⟩ : ExtendedMantissa).roundedMantissa = a / b + a / b % 2 := rfl
    rw [quotient_of_eq h, heven, if_neg (by omega), if_neg (by omega)]
    split <;> omega
  · rw [quotient_of_gt hb h, if_neg (by omega), if_pos h]
    rfl

end quotient

/-! ### Rounding to a double -/

section round

variable {a b : ℕ} {e : ℤ} {x : ℚ}

theorem targetExponent_eq (m : ℕ) (e : ℤ) :
    Format.binary64.targetExponent (totalExponent m e) = max (m.log2 + e - 52) (-1074) := by
  have hbits : (Format.binary64.mantissaBits : ℤ) = 53 := by decide
  have hmin : Format.binary64.minExponent = -1074 := by decide
  unfold Format.targetExponent totalExponent
  rw [hbits, hmin]
  omega

/-- A quotient of at least one has as many binary digits as its whole part. -/
theorem log_quotient (hb : 0 < b) (hx : x = a / b * 2 ^ e) (hpos : 0 < x) (h : 0 < a / b) :
    Int.log 2 x = (a / b).log2 + e := by
  have hbq : (0 : ℚ) < b := by exact_mod_cast hb
  have hpow : (0 : ℚ) < 2 ^ e := by positivity
  have hlow : ((2 ^ (a / b).log2 : ℕ) : ℚ) ≤ a / b :=
    le_trans (by exact_mod_cast Nat.log2_self_le h.ne') Nat.cast_div_le
  have hhigh : (a : ℚ) / b < ((2 ^ ((a / b).log2 + 1) : ℕ) : ℚ) := by
    have hlt : a / b < 2 ^ ((a / b).log2 + 1) := Nat.lt_log2_self
    rw [div_lt_iff₀ hbq]
    exact_mod_cast (Nat.div_lt_iff_lt_mul hb).mp hlt
  have hcast (k : ℕ) : ((2 ^ k : ℕ) : ℚ) * 2 ^ e = 2 ^ (k + e : ℤ) := by
    rw [zpow_add₀ two_ne_zero, zpow_natCast]
    push_cast
    rfl
  apply le_antisymm
  · rw [← Int.lt_add_one_iff, ← Int.lt_zpow_iff_log_lt one_lt_two hpos, Nat.cast_ofNat, hx]
    refine (mul_lt_mul_of_pos_right hhigh hpow).trans_eq ?_
    rw [hcast]
    congr 1
    push_cast
    ring
  · rw [← Int.zpow_le_iff_le_log one_lt_two hpos, Nat.cast_ofNat, hx, ← hcast]
    exact mul_le_mul_of_nonneg_right hlow hpow.le

theorem log_quotient_lt (hb : 0 < b) (hx : x = a / b * 2 ^ e) (hpos : 0 < x) (h : a / b = 0) :
    Int.log 2 x < e := by
  have hab : (a : ℚ) / b < 1 := by
    rw [div_lt_one (by exact_mod_cast hb)]
    exact_mod_cast (Nat.div_eq_zero_iff_lt hb).mp h
  rw [← Int.lt_zpow_iff_log_lt one_lt_two hpos, Nat.cast_ofNat, hx]
  exact mul_lt_of_lt_one_left (by positivity) hab

/-- The exponent that is chosen by the whole part of a quotient is the one of the number. -/
theorem targetExponent_quotient (hb : 0 < b) (hx : x = a / b * 2 ^ e) (hpos : 0 < x)
    (he : e ≤ exponent x) :
    Format.binary64.targetExponent (totalExponent (a / b) e) = exponent x := by
  rw [targetExponent_eq]
  unfold exponent at he ⊢
  rcases Nat.eq_zero_or_pos (a / b) with h0 | h1
  · have hlog := log_quotient_lt hb hx hpos h0
    rw [h0, Nat.log2_zero]
    omega
  · rw [log_quotient hb hx hpos h1]

/-- A significand that a carry made too long is shifted once more, which changes no bits. -/
theorem carry {t : ℤ} {r : ℕ} (ht : -1074 ≤ t) (hr : r ≤ 2 ^ 53) (hlow : 2 ^ 52 ≤ r ∨ t = -1074) :
    ∃ last t', shiftToTargetExponent .binary64 r t .exact = (last, t') ∧
      grid t' last.mantissa = grid t r ∧ -1074 ≤ t' ∧ last.mantissa < 2 ^ 53 ∧
      (2 ^ 52 ≤ last.mantissa ∨ t' = -1074) := by
  have htarget := targetExponent_eq r t
  unfold shiftToTargetExponent shiftToExponent
  rcases Nat.lt_or_eq_of_le hr with hlt | rfl
  · have hlog : r.log2 < 53 := by
      rcases Nat.eq_zero_or_pos r with rfl | hpos
      · norm_num
      · exact (Nat.log2_lt hpos.ne').mpr hlt
    have hzero : (Format.binary64.targetExponent (totalExponent r t) - t).toNat = 0 := by
      rw [htarget]
      omega
    dsimp only
    rw [hzero]
    exact ⟨⟨r, false, false⟩, t + 0, rfl, by rw [add_zero], by omega, hlt, hlow.imp_right (by omega)⟩
  · have hone : (Format.binary64.targetExponent (totalExponent (2 ^ 53) t) - t).toNat = 1 := by
      rw [htarget, Nat.log2_two_pow]
      omega
    dsimp only
    rw [hone]
    refine ⟨⟨2 ^ 52, false, false⟩, t + 1, rfl, ?_, by omega, by norm_num, Or.inl le_rfl⟩
    show (t + 1 + 1074).toNat * 2 ^ 52 + 2 ^ 52 = (t + 1074).toNat * 2 ^ 52 + 2 ^ 53
    omega

theorem roundWithAccuracy_of_shifts (s : Sign) {m : ℕ} {t t' : ℤ} {acc : Accuracy}
    {first last : ExtendedMantissa}
    (hfirst : shiftToTargetExponent .binary64 m e acc = (first, t))
    (hlast : shiftToTargetExponent .binary64 first.roundedMantissa t .exact = (last, t')) :
    roundWithAccuracy .binary64 s m e acc =
      if h : last.mantissa = 0 then .zero s
      else .finite s last.mantissa t' (Nat.pos_of_ne_zero h) := by
  unfold roundWithAccuracy
  rw [hfirst]
  dsimp only
  rw [hlast]

/-- The bits of a datum that is in order once its exponent is least or its significand long. -/
theorem toNat_pack_dite (s : Sign) {t : ℤ} {r : ℕ} (ht : -1074 ≤ t) (hr : r < 2 ^ 53)
    (hlow : 2 ^ 52 ≤ r ∨ t = -1074) :
    (pack .binary64 (if h : r = 0 then .zero s
      else .finite s r t (Nat.pos_of_ne_zero h))).toNat = weight s + min (grid t r) infinity := by
  by_cases h0 : r = 0
  · have hleast : t = -1074 := hlow.resolve_left (by omega)
    have hz : (pack .binary64 (.zero s)).toNat = weight s + 0 := toNat_fields s 0 0
    rw [dif_pos h0, hz, h0, hleast]
    rfl
  · rw [dif_neg h0]
    exact toNat_pack_finite ht _ hr hlow

/-- **Rounding a datum** gives the double nearest to the number that it stands for. -/
theorem toNat_pack_round (s : Sign) (hb : 0 < b) (hx : x = a / b * 2 ^ e) (hpos : 0 < x)
    (he : e ≤ exponent x) :
    (pack .binary64 (roundWithAccuracy .binary64 s (a / b) e (accuracyOfFraction (a % b) b))).toNat =
      weight s + nearest x := by
  have hfirst : shiftToTargetExponent .binary64 (a / b) e (accuracyOfFraction (a % b) b) =
      (quotient a (2 ^ (exponent x - e).toNat * b), exponent x) := by
    unfold shiftToTargetExponent shiftToExponent
    rw [targetExponent_quotient hb hx hpos he, ofMantissaAndAccuracy_quotient hb]
    dsimp only
    rw [shiftRight_quotient hb]
    congr 1
    omega
  have hscaled : x / 2 ^ exponent x = (a : ℚ) / (2 ^ (exponent x - e).toNat * b : ℕ) := by
    have hbq : (b : ℚ) ≠ 0 := by exact_mod_cast hb.ne'
    have hpow : (2 : ℚ) ^ exponent x = 2 ^ e * 2 ^ (exponent x - e).toNat := by
      rw [← zpow_natCast, ← zpow_add₀ two_ne_zero]
      congr 1
      omega
    rw [hpow, hx]
    push_cast
    field_simp
  have hround : (quotient a (2 ^ (exponent x - e).toNat * b)).roundedMantissa =
      roundEven (x / 2 ^ exponent x) := by
    rw [roundedMantissa_quotient (by positivity), hscaled, roundEven_div _ _ (by positivity)]
  obtain ⟨hr, hlow⟩ := significand_bounds hpos
  obtain ⟨last, t', hlast, hgrid, hge, hlt, hlow'⟩ := carry (exponent_ge x) hr hlow
  rw [← hround] at hlast
  rw [nearest_of_pos hpos, rounded, ← hgrid, roundWithAccuracy_of_shifts s hfirst hlast]
  exact toNat_pack_dite s hge hlt hlow'

end round

end Double
end PenPlotter
