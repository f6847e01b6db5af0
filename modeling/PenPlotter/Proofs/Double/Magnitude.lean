import PenPlotter.Proofs.Double.Numeral

/-! # Arithmetic of magnitudes

The product and the quotient of two finite doubles without a minus sign, and the double of a whole
number, are the doubles nearest to the exact values (`mul_ofBits`, `div_ofBits`, `toFloat_ofNat`).
Rounding keeps the order (`nearest_le`, `le_nearest`), so that a quotient by no less than one is
finite (`IsMagnitude.div`). -/

namespace PenPlotter
namespace Double

open Float.Model Float.Model.UnpackedFloat

/-! ### Rounding keeps the order -/

section order

variable {x : ℚ} {k : ℕ}

theorem nearest_le (hx : 0 ≤ x) (hk : k ≤ infinity) (h : x ≤ value k) : nearest x ≤ k := by
  by_contra hlt
  have hvalue : value k < value (nearest x) := value_strictMono (not_le.mp hlt)
  have hclosest := (nearest_closest hx hk).1
  rw [abs_of_nonneg (by linarith), abs_of_nonneg (by linarith)] at hclosest
  linarith

theorem le_nearest (hx : 0 ≤ x) (hk : k ≤ infinity) (h : value k ≤ x) : k ≤ nearest x := by
  by_contra hlt
  have hvalue : value (nearest x) < value k := value_strictMono (not_le.mp hlt)
  have hclosest := (nearest_closest hx hk).1
  rw [abs_of_nonpos (by linarith), abs_of_nonpos (by linarith)] at hclosest
  linarith

theorem value_nonneg (n : ℕ) : 0 ≤ value n := by
  unfold value
  split <;> positivity

theorem value_zero : value 0 = 0 := by simp [value]

end order

/-! ### Products and quotients -/

section products

variable {m n : ℕ}

/-- A double without a minus sign is zero or finite, and then of full length if it is not among the
smallest ones. -/
theorem unpack_ofBits (hn : n < infinity) :
    (n = 0 ∧ (ofBits false n).toModel.unpack = .zero .positive) ∨
    ∃ p k, ∃ h : 0 < p, (ofBits false n).toModel.unpack = .finite .positive p k h ∧
      p * 2 ^ k = value n ∧ (2 ^ 52 ≤ n → 2 ^ 52 ≤ p) := by
  obtain ⟨e, f, hf, -, hu, h⟩ := toModel_ofBits false hn.le
  have hweight : weight (sign false) = 0 := rfl
  have hfields := toNat_fields (sign false) e f
  rw [hf, hweight, Nat.zero_add, Nat.zero_add] at hfields
  have hlt := f.isLt
  rw [hu, unpack_fields]
  rcases datum_cases e f with
    ⟨h1, hz, _⟩ | ⟨h1, hz, _⟩ | ⟨h0, hz, hd⟩ | ⟨h0, hz, hd⟩ | ⟨h1, h0, hd⟩
  · have h2047 : (-1#11).toNat = 2047 := rfl
    rw [h1, h2047] at hfields
    unfold infinity at hn
    omega
  · exact absurd (h.resolve_left (not_not.mpr h1)) hz
  · rw [h0, hz] at hfields
    exact .inl ⟨hfields, hd _⟩
  · rw [h0, BitVec.toNat_zero, Nat.zero_mul, Nat.zero_add] at hfields
    refine .inr ⟨_, _, _, hd _, ?_, by omega⟩
    rw [value, if_pos (by omega), hfields]
  · have hpos : 0 < e.toNat := BitVec.toNat_pos_of_ne_zero h0
    refine .inr ⟨_, _, _, hd _, ?_, fun _ => by omega⟩
    have hdiv : n / 2 ^ 52 = e.toNat := by omega
    have hmod : n % 2 ^ 52 = f.toNat := by omega
    rw [value, if_neg (by omega), hdiv, hmod]

/-- The product is the nearest double to the exact one. -/
theorem mul_ofBits (hm : m < infinity) (hn : n < infinity) (hlong : 2 ^ 52 ≤ n) :
    ofBits false m * ofBits false n = ofBits false (nearest (value m * value n)) := by
  have hmul : ofBits false m * ofBits false n = Float.ofModel (.pack (UnpackedFloat.mul .binary64
    (ofBits false m).toModel.unpack (ofBits false n).toModel.unpack)) := rfl
  obtain ⟨rfl, _⟩ | ⟨q, l, hq, hv, hvalue', hlong'⟩ := unpack_ofBits hn
  · omega
  rw [hmul, hv]
  refine ofModel_pack (nearest_le_infinity _) ?_
  obtain ⟨rfl, hu⟩ | ⟨p, k, hp, hu, hvalue, -⟩ := unpack_ofBits hm
  · rw [hu, value_zero, zero_mul, nearest_zero]
    rfl
  · rw [hu, toNat_pack_mul hp hq ((hlong' hlong).trans (Nat.le_mul_of_pos_left q hp)), hvalue,
      hvalue']
    exact (Nat.zero_add _).symm

theorem div_ofBits (hm : m < infinity) (hn : n < infinity) (hpos : 0 < n) :
    ofBits false m / ofBits false n = ofBits false (nearest (value m / value n)) := by
  have hdiv : ofBits false m / ofBits false n = Float.ofModel (.pack (UnpackedFloat.div .binary64
    (ofBits false m).toModel.unpack (ofBits false n).toModel.unpack)) := rfl
  obtain ⟨rfl, _⟩ | ⟨q, l, hq, hv, hvalue', -⟩ := unpack_ofBits hn
  · omega
  rw [hdiv, hv]
  refine ofModel_pack (nearest_le_infinity _) ?_
  obtain ⟨rfl, hu⟩ | ⟨p, k, hp, hu, hvalue, -⟩ := unpack_ofBits hm
  · rw [hu, value_zero, zero_div, nearest_zero]
    rfl
  · rw [hu, toNat_pack_div hp hq, hvalue, hvalue']
    exact (Nat.zero_add _).symm

end products

/-! ### Whole numbers -/

/-- A whole number of 64 bits is read as the double nearest to it. -/
theorem toFloat_ofNat {m : ℕ} (hm : m < 2 ^ 64) :
    m.toUInt64.toFloat = ofBits false (nearest m) := by
  have hmodel : m.toUInt64.toFloat =
      Float.ofModel (.pack (UnpackedFloat.ofUInt64 .binary64 m.toUInt64)) := rfl
  rcases Nat.eq_zero_or_pos m with rfl | hpos
  · rw [Nat.cast_zero, nearest_zero]
    rfl
  have hto : (m.toUInt64.toNat : ℤ) = m := congrArg _ (Nat.mod_eq_of_lt hm)
  have hcmp : compare (m : ℤ) 0 = .gt := Int.compare_eq_gt.mpr (by omega)
  rw [hmodel]
  refine ofModel_pack (nearest_le_infinity _) ?_
  unfold UnpackedFloat.ofUInt64 UnpackedFloat.ofNat UnpackedFloat.ofInt UnpackedFloat.normalize
  rw [hto, hcmp]
  dsimp only
  unfold UnpackedFloat.round decreaseExponent
  dsimp only
  rw [Int.toNat_natCast, Nat.shiftLeft_eq]
  set k := (0 - Format.binary64.targetExponent (totalExponent m 0)).toNat with hk
  have hx : (m : ℚ) = (m * 2 ^ k : ℕ) / (1 : ℕ) * 2 ^ (0 - (k : ℤ)) := by
    rw [zero_sub, zpow_neg, zpow_natCast]
    push_cast
    field_simp
  have he : 0 - (k : ℤ) ≤ exponent m := by
    rw [targetExponent_eq, Nat.log2_eq_log_two] at hk
    rw [exponent, Int.log_natCast]
    omega
  have hround := toNat_pack_round .positive Nat.one_pos hx (by positivity) he
  rw [Nat.div_one, Nat.mod_one] at hround
  exact hround

/-! ### Finite magnitudes -/

/-- A finite double without a minus sign. -/
def IsMagnitude (x : Float) : Prop := ∃ n < infinity, x = ofBits false n

section magnitudes

variable {x : Float} {n : ℕ}

theorem isMagnitude_of_not_isInf (hn : n ≤ infinity) (h : (ofBits false n).isInf = false) :
    IsMagnitude (ofBits false n) := by
  rcases isFinite_isInf_ofBits false hn with ⟨-, -, hinf⟩ | ⟨hlt, -, -⟩
  · rw [hinf] at h
    cases h
  · exact ⟨n, hlt, rfl⟩

theorem IsMagnitude.isFinite (hx : IsMagnitude x) : x.isFinite = true ∧ (-x).isFinite = true := by
  obtain ⟨n, hn, rfl⟩ := hx
  have hfinite (negative : Bool) : (ofBits negative n).isFinite = true := by
    rcases isFinite_isInf_ofBits negative hn.le with ⟨heq, -⟩ | ⟨-, hfinite, -⟩
    · omega
    · exact hfinite
  rw [neg_ofBits hn.le]
  exact ⟨hfinite false, hfinite true⟩

theorem IsMagnitude.mul (hx : IsMagnitude x) (hn : n < infinity) (hlong : 2 ^ 52 ≤ n)
    (h : (x * ofBits false n).isInf = false) : IsMagnitude (x * ofBits false n) := by
  obtain ⟨m, hm, rfl⟩ := hx
  rw [mul_ofBits hm hn hlong] at h ⊢
  exact isMagnitude_of_not_isInf (nearest_le_infinity _) h

theorem IsMagnitude.div (hx : IsMagnitude x) (hn : n < infinity) (hone : 1 ≤ value n) :
    IsMagnitude (x / ofBits false n) := by
  obtain ⟨m, hm, rfl⟩ := hx
  have hpos : 0 < n := by
    rw [Nat.pos_iff_ne_zero]
    rintro rfl
    rw [value_zero] at hone
    linarith
  have hquotient : value m / value n ≤ value m := div_le_self (value_nonneg m) hone
  have hle : nearest (value m / value n) ≤ m :=
    nearest_le (div_nonneg (value_nonneg m) (value_nonneg n)) hm.le hquotient
  rw [div_ofBits hm hn hpos]
  exact ⟨_, hle.trans_lt hm, rfl⟩

theorem isMagnitude_toFloat (u : UInt64) : IsMagnitude u.toFloat := by
  have hlt : u.toNat < 2 ^ 64 := u.toNat_lt
  have hvalue : (u.toNat : ℚ) ≤ value (1087 * 2 ^ 52) := by
    have hpower : value (1087 * 2 ^ 52) = 2 ^ 64 := by norm_num [value]
    rw [hpower]
    exact_mod_cast hlt.le
  have hle : nearest u.toNat ≤ 1087 * 2 ^ 52 :=
    nearest_le (by positivity) (by norm_num [infinity]) hvalue
  have heq : u.toNat.toUInt64 = u := UInt64.ofNat_toNat
  have hfloat := toFloat_ofNat hlt
  rw [heq] at hfloat
  refine ⟨nearest u.toNat, ?_, hfloat⟩
  unfold infinity
  omega

/-- The largest power of ten is no more than the largest double. -/
theorem power_le_value : (10 : ℚ) ^ 308 ≤ value (infinity - 1) := by
  have hlargest : value (infinity - 1) = 9007199254740991 * 2 ^ 971 := by
    norm_num [value, infinity]
  have hpowers : (10 ^ 308 : ℕ) ≤ 9007199254740991 * 2 ^ 971 := by decide +kernel
  rw [hlargest]
  exact_mod_cast hpowers

/-- The powers of ten up to the largest are doubles of full length, and no less than one. -/
theorem ofScientific_power {e : ℕ} (he : e ≤ 308) : ∃ n < infinity, 2 ^ 52 ≤ n ∧ 1 ≤ value n ∧
    Float.ofScientific 1 false e = ofBits false n := by
  have heq := ofScientific_eq (m := 1) Nat.one_pos false e
  have hpower : ((1 : ℕ) : ℚ) * 10 ^ (if false = true then -(e : ℤ) else e) = 10 ^ e := by
    rw [Nat.cast_one, one_mul, if_neg Bool.false_ne_true, zpow_natCast]
  rw [hpower] at heq
  have hone : value (1023 * 2 ^ 52) = 1 := by norm_num [value]
  have hlow : 1023 * 2 ^ 52 ≤ nearest (10 ^ e) := by
    refine le_nearest (by positivity) (by norm_num [infinity]) ?_
    rw [hone]
    exact one_le_pow₀ (by norm_num)
  have hhigh : nearest (10 ^ e) ≤ infinity - 1 := by
    refine nearest_le (by positivity) (Nat.sub_le _ _) ?_
    calc (10 : ℚ) ^ e ≤ 10 ^ 308 := pow_le_pow_right₀ (by norm_num) he
      _ ≤ value (infinity - 1) := power_le_value
  refine ⟨nearest (10 ^ e), ?_, by omega, ?_, heq⟩
  · unfold infinity at hhigh ⊢
    omega
  · rw [← hone]
    exact value_strictMono.monotone hlow

end magnitudes

end Double
end PenPlotter
