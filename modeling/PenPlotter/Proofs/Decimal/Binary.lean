import PenPlotter.Decimal.Binary
import PenPlotter.Proofs.Double.Bits

/-! # The parts of a finite double

A finite double is a sign and a pattern below that of infinity (`exists_ofBits`).  `Binary.ofFloat`
takes the pattern apart into its place on the grid of doubles (`grid_ofFloat`).  Between a double and
its neighbours lie the halves of two gaps; what is nearer to it than to either neighbour is rounded
to it (`nearest_of_between`). -/

namespace PenPlotter
namespace Double

open Float.Model Float.Model.UnpackedFloat

theorem toNat_unpackExponent (b : BitVec Format.binary64.numBits) :
    (unpackExponent b).toNat = b.toNat / 2 ^ 52 % 2 ^ 11 := by
  unfold unpackExponent
  rw [BitVec.toNat_cast, BitVec.extractLsb_toNat, Nat.shiftRight_eq_div_pow]
  rfl

theorem toNat_unpackMantissa (b : BitVec Format.binary64.numBits) :
    (unpackMantissa b).toNat = b.toNat % 2 ^ 52 := by
  unfold unpackMantissa
  rw [BitVec.toNat_cast, BitVec.extractLsb_toNat, Nat.shiftRight_zero]
  rfl

theorem toNat_unpackSign (b : BitVec Format.binary64.numBits) :
    (unpackSign b).toNat = b.toNat / 2 ^ 63 % 2 := by
  unfold unpackSign
  rw [BitVec.toNat_cast, BitVec.extractLsb_toNat, Nat.shiftRight_eq_div_pow]
  rfl

theorem isFinite_of_exponent {x : Float}
    (h : @unpackExponent .binary64 x.toBits.toBitVec = -1#11) : x.isFinite = false := by
  have hfinite : x.isFinite = (unpack .binary64 x.toBits.toBitVec).isFinite := rfl
  rw [hfinite, unpack_of_parts _ _ _ rfl rfl rfl, datum, if_pos h]
  split <;> rfl

theorem exists_ofBits {x : Float} (hx : x.isFinite = true) :
    ∃ negative n, n < infinity ∧ x = ofBits negative n := by
  have hlt : x.toBits.toNat < 2 ^ 64 := x.toBits.toNat_lt
  have hn : x.toBits.toNat % 2 ^ 63 < infinity := by
    by_contra hge
    have hexp : @unpackExponent .binary64 x.toBits.toBitVec = -1#11 := by
      apply BitVec.eq_of_toNat_eq
      rw [toNat_unpackExponent]
      have h2047 : (-1#11).toNat = 2047 := rfl
      have hword : x.toBits.toBitVec.toNat = x.toBits.toNat := rfl
      unfold infinity at hge
      rw [h2047, hword]
      omega
    rw [isFinite_of_exponent hexp] at hx
    cases hx
  refine ⟨decide (2 ^ 63 ≤ x.toBits.toNat), x.toBits.toNat % 2 ^ 63, hn,
    ext_toBits (UInt64.toNat_inj.mp ?_)⟩
  rw [bits_ofBits _ hn.le, weight_sign]
  simp only [decide_eq_true_eq]
  split <;> omega

theorem toNat_of_unpack_infinity {b : BitVec Format.binary64.numBits}
    (h : unpack .binary64 b = .infinity .positive) : b.toNat = infinity := by
  have hparts := unpack_of_parts _ (unpackExponent b) (unpackMantissa b) (b := b) rfl rfl rfl
  have hlt : b.toNat < 2 ^ 64 := b.isLt
  rw [h] at hparts
  rcases datum_cases (unpackExponent b) (unpackMantissa b) with
    ⟨he, hm, hd⟩ | ⟨_, _, hd⟩ | ⟨_, _, hd⟩ | ⟨_, _, hd⟩ | ⟨_, _, hd⟩ <;> rw [hd] at hparts
  · have hs : (unpackSign b).toNat = 0 := by
      by_contra hne
      have hone : unpackSign b = 1#1 := BitVec.eq_of_toNat_eq (by
        have := (unpackSign b).isLt
        show (unpackSign b).toNat = 1
        omega)
      rw [hone] at hparts
      exact absurd (infinity.inj hparts) (nomatch · : Sign.positive ≠ Sign.negative)
    have he' := congrArg BitVec.toNat he
    have hm' := congrArg BitVec.toNat hm
    have h2047 : (-1#11).toNat = 2047 := rfl
    rw [toNat_unpackExponent, h2047] at he'
    rw [toNat_unpackMantissa, BitVec.toNat_zero] at hm'
    rw [toNat_unpackSign] at hs
    unfold Double.infinity
    omega
  all_goals cases hparts

/-- A double that is not finite but at least zero is infinite. -/
theorem eq_infinity {x : Float} (hx : x.isFinite = false) (h : 0.0 ≤ x) : x = 1.0 / 0.0 := by
  have hzero : (0.0 : Float).toModel.unpack = .zero .positive := rfl
  have hle : (0.0 : Float).toModel.unpack.le x.toModel.unpack = true := of_decide_eq_true h
  rw [hzero] at hle
  have hfinite : x.toModel.unpack.isFinite = false := hx
  have hunpack : x.toModel.unpack = .infinity .positive := by
    revert hle hfinite
    cases x.toModel.unpack with
    | infinity s =>
        intro hle _
        cases s with
        | positive => rfl
        | negative => cases hle
    | notANumber => intro hle _; cases hle
    | zero => intro _ hfinite; cases hfinite
    | finite => intro _ hfinite; cases hfinite
  have hbits : x.toBits.toNat = Double.infinity := toNat_of_unpack_infinity hunpack
  refine ext_toBits (UInt64.toNat_inj.1 (hbits.trans ?_))
  rfl
/-! ### Neighbours -/

/-- What lies between the halves of the gaps on both sides of a double is rounded to it.  An end
of this interval is, if the pattern is even. -/
theorem nearest_of_between {n : ℕ} {y : ℚ} (hpos : 0 < n) (hn : n < infinity)
    (hlow : value (n - 1) + value n ≤ 2 * y) (hhigh : 2 * y ≤ value n + value (n + 1))
    (hends : value (n - 1) + value n = 2 * y ∨ 2 * y = value n + value (n + 1) → Even n) :
    nearest y = n := by
  have hbelow : value (n - 1) < value n := value_strictMono (by omega)
  have habove : value n < value (n + 1) := value_strictMono (by omega)
  have hzero : 0 ≤ value (n - 1) := by
    have h0 : value 0 = 0 := by simp [value]
    exact h0 ▸ value_strictMono.monotone (Nat.zero_le _)
  obtain ⟨hclosest, htie⟩ := nearest_closest (x := y) (by linarith) hn.le
  rcases Nat.lt_trichotomy (nearest y) n with hlt | heq | hgt
  · -- a double below is no nearer, and if it is as near then it is the neighbour and odd
    exfalso
    have hle : value (nearest y) ≤ value (n - 1) := value_strictMono.monotone (by omega)
    have hfar : value n - y ≤ y - value (nearest y) := by linarith
    have habs : |value n - y| ≤ y - value (nearest y) :=
      abs_le.2 ⟨by linarith, hfar⟩
    have hself : |value (nearest y) - y| = y - value (nearest y) := by
      rw [abs_sub_comm, abs_of_nonneg (by linarith)]
    have hequal : |value n - y| = |value (nearest y) - y| := by linarith
    have hodd := (htie hequal).resolve_left (by omega)
    have hmid : value (n - 1) + value n = 2 * y := by
      rcases abs_cases (value n - y) with ⟨h, -⟩ | ⟨h, -⟩ <;> linarith
    have hpred : nearest y = n - 1 := value_strictMono.injective (by
      rcases abs_cases (value n - y) with ⟨h, -⟩ | ⟨h, -⟩ <;> linarith)
    have heven := hends (Or.inl hmid)
    rw [hpred] at hodd
    rw [Nat.even_iff] at hodd heven
    omega
  · exact heq
  · exfalso
    have hge : value (n + 1) ≤ value (nearest y) := value_strictMono.monotone (by omega)
    have habs : |value n - y| ≤ value (nearest y) - y :=
      abs_le.2 ⟨by linarith, by linarith⟩
    have hself : |value (nearest y) - y| = value (nearest y) - y := abs_of_nonneg (by linarith)
    have hequal : |value n - y| = |value (nearest y) - y| := by linarith
    have hodd := (htie hequal).resolve_left (by omega)
    have hmid : 2 * y = value n + value (n + 1) := by
      rcases abs_cases (value n - y) with ⟨h, -⟩ | ⟨h, -⟩ <;> linarith
    have hsucc : nearest y = n + 1 := value_strictMono.injective (by
      rcases abs_cases (value n - y) with ⟨h, -⟩ | ⟨h, -⟩ <;> linarith)
    have heven := hends (Or.inr hmid)
    rw [hsucc] at hodd
    rw [Nat.even_iff] at hodd heven
    omega

/-! ### Parts -/

section parts

variable (negative : Bool) {n : ℕ}

theorem negative_ofFloat (hn : n < infinity) :
    (Binary.ofFloat (ofBits negative n)).negative = negative := by
  have hbits := bits_ofBits negative hn.le
  have hweight := weight_sign negative
  have hsign (w : UInt64) : (w >>> 63).toNat = w.toNat / 2 ^ 63 := by
    rw [UInt64.toNat_shiftRight, Nat.shiftRight_eq_div_pow]
    rfl
  unfold infinity at hn
  simp only [Binary.ofFloat, Binary.signBit]
  cases negative with
  | true =>
      rw [beq_iff_eq, ← UInt64.toNat_inj, hsign, hbits, hweight, if_pos rfl]
      simp only [UInt64.reduceToNat]
      omega
  | false =>
      rw [beq_eq_false_iff_ne, ne_eq, ← UInt64.toNat_inj, hsign, hbits, hweight,
        if_neg Bool.false_ne_true]
      simp only [UInt64.reduceToNat]
      omega

/-- The exponent and the significand are the place of the pattern on its grid. -/
theorem grid_ofFloat (hn : n < infinity) :
    let b := Binary.ofFloat (ofBits negative n)
    n = grid b.exponent b.significand ∧ -1074 ≤ b.exponent ∧ b.significand < 2 ^ 53 ∧
      (2 ^ 52 ≤ b.significand ∨ b.exponent = -1074) ∧
      (b.narrowBelow = true ↔ b.significand = 2 ^ 52 ∧ -1074 < b.exponent) := by
  have hbits := bits_ofBits negative hn.le
  rw [weight_sign] at hbits
  unfold infinity at hn
  have hbiased : (ofBits negative n).toBits.toNat / 0x10000000000000 % 0x800 = n / 2 ^ 52 := by
    rw [hbits]
    split <;> omega
  have hfraction : (ofBits negative n).toBits.toNat % 0x10000000000000 = n % 2 ^ 52 := by
    rw [hbits]
    split <;> omega
  simp only [Binary.ofFloat, hbiased, hfraction, grid, Bool.and_eq_true, beq_iff_eq,
    decide_eq_true_eq]
  split <;> omega

end parts

end Double
end PenPlotter
