import PenPlotter.Proofs.Double.Nearest

/-! # The bits of a double

A double is packed from a sign, an exponent field of 11 bits and a fraction field of 52 bits.
`bits_ofBits` says that every pattern up to infinity, with either sign, is the pattern of the
double that is made from it, and `neg_ofBits` that negation flips the sign alone. -/

namespace PenPlotter
namespace Double

open Float.Model Float.Model.UnpackedFloat

/-! ### Fields -/

section fields

variable (s : Sign) (e : BitVec 11) (m : BitVec 52)

/-- The double with the given fields. -/
def fields : BitVec Format.binary64.numBits := packComponents .binary64 s e m

/-- The weight of the sign bit. -/
def weight : Sign → ℕ
  | .negative => 2 ^ 63
  | .positive => 0

theorem toNat_append {a b : ℕ} (x : BitVec a) (y : BitVec b) :
    (x ++ y).toNat = x.toNat * 2 ^ b + y.toNat := by
  rw [BitVec.toNat_append, ← Nat.shiftLeft_add_eq_or_of_lt y.isLt, Nat.shiftLeft_eq]

theorem toNat_fields : (fields s e m).toNat = weight s + e.toNat * 2 ^ 52 + m.toNat := by
  have hs : s.toBitVec.toNat * 2 ^ 63 = weight s := by cases s <;> rfl
  have happ : (fields s e m).toNat = (s.toBitVec.toNat * 2 ^ 11 + e.toNat) * 2 ^ 52 + m.toNat := by
    unfold fields packComponents
    rw [toNat_append, toNat_append]
  omega

theorem unpackSign_fields : unpackSign (fields s e m) = s.toBitVec := by
  apply BitVec.eq_of_toNat_eq
  have h := toNat_fields s e m
  have he := e.isLt
  have hm := m.isLt
  unfold unpackSign
  simp only [BitVec.toNat_cast, BitVec.extractLsb_toNat, Nat.shiftRight_eq_div_pow, h]
  cases s <;> simp [weight, Sign.toBitVec] <;> omega

theorem ofBitVec_toBitVec : Sign.ofBitVec s.toBitVec = s := by cases s <;> rfl

theorem toNat_lt_of_ne {e : BitVec 11} (h : e ≠ -1#11) : e.toNat < 2047 := by
  by_contra hge
  exact h (BitVec.eq_of_toNat_eq (by show e.toNat = 2047; omega))

theorem finite_eq {p q : ℕ} {k l : ℤ} {hp : 0 < p} (h : p = q) (hk : k = l) :
    UnpackedFloat.finite s p k hp = .finite s q l (h ▸ hp) := by
  subst h hk
  rfl

def datum : UnpackedFloat :=
  if e = -1#11 then (if m = 0#52 then .infinity s else .notANumber)
  else if e = 0#11 then
    (if h : m = 0#52 then .zero s
      else .finite s m.toNat (-1074) (BitVec.toNat_pos_of_ne_zero h))
  else .finite s (2 ^ 52 + m.toNat) (e.toNat - 1075) (by omega)

theorem datum_cases :
    (e = -1#11 ∧ m = 0#52 ∧ ∀ s, datum s e m = .infinity s) ∨
    (e = -1#11 ∧ m ≠ 0#52 ∧ ∀ s, datum s e m = .notANumber) ∨
    (e = 0#11 ∧ m = 0#52 ∧ ∀ s, datum s e m = .zero s) ∨
    (e = 0#11 ∧ ∃ h : m ≠ 0#52, ∀ s,
      datum s e m = .finite s m.toNat (-1074) (BitVec.toNat_pos_of_ne_zero h)) ∨
    (e ≠ -1#11 ∧ e ≠ 0#11 ∧ ∀ s,
      datum s e m = .finite s (2 ^ 52 + m.toNat) (e.toNat - 1075) (by omega)) := by
  by_cases h1 : e = -1#11
  · by_cases hz : m = 0#52
    · exact Or.inl ⟨h1, hz, fun s => (if_pos h1).trans (if_pos hz)⟩
    · exact Or.inr (Or.inl ⟨h1, hz, fun s => (if_pos h1).trans (if_neg hz)⟩)
  · by_cases h0 : e = 0#11
    · by_cases hz : m = 0#52
      · exact Or.inr (Or.inr (Or.inl ⟨h0, hz, fun s =>
          (if_neg h1).trans ((if_pos h0).trans (dif_pos hz))⟩))
      · exact Or.inr (Or.inr (Or.inr (Or.inl ⟨h0, hz, fun s =>
          (if_neg h1).trans ((if_pos h0).trans (dif_neg hz))⟩)))
    · exact Or.inr (Or.inr (Or.inr (Or.inr ⟨h1, h0, fun s =>
        (if_neg h1).trans (if_neg h0)⟩)))

theorem unpack_of_parts {b : BitVec Format.binary64.numBits} (hs : Sign.ofBitVec (unpackSign b) = s)
    (he : unpackExponent b = e) (hm : unpackMantissa b = m) : unpack .binary64 b = datum s e m := by
  have hbias : (Format.binary64.exponentBias : ℤ) + Format.binary64.mantissaBitsWithoutImplicit =
      1075 := by decide
  subst hs he hm
  rcases datum_cases (unpackExponent b) (unpackMantissa b) with
    ⟨h1, hz, h⟩ | ⟨h1, hz, h⟩ | ⟨h0, hz, h⟩ | ⟨h0, hz, h⟩ | ⟨h1, h0, h⟩
  · rw [h]
    exact (if_pos h1).trans (if_pos hz)
  · rw [h]
    exact (if_pos h1).trans (if_neg hz)
  · have h1 : unpackExponent b ≠ -1#11 := by rw [h0]; decide
    rw [h]
    exact (if_neg h1).trans ((if_pos h0).trans (dif_pos hz))
  · have h1 : unpackExponent b ≠ -1#11 := by rw [h0]; decide
    rw [h]
    refine (if_neg h1).trans ((if_pos h0).trans ((dif_neg hz).trans (finite_eq _ rfl ?_)))
    rw [hbias, h0]
    rfl
  · have himplicit : (1#1 ++ unpackMantissa b).toNat = 2 ^ 52 + (unpackMantissa b).toNat := by
      rw [toNat_append]
      rfl
    rw [h]
    refine (if_neg h1).trans ((if_neg h0).trans (finite_eq _ himplicit ?_))
    rw [hbias]

theorem unpack_fields : unpack .binary64 (fields s e m) = datum s e m := by
  have hs : Sign.ofBitVec (unpackSign (fields s e m)) = s := by
    rw [unpackSign_fields, ofBitVec_toBitVec]
  exact unpack_of_parts s e m hs unpackExponent_packComponents unpackMantissa_packComponents

theorem neg_unpack_fields :
    (unpack .binary64 (fields s e m)).neg = unpack .binary64 (fields (-s) e m) := by
  rw [unpack_fields, unpack_fields]
  rcases datum_cases e m with ⟨_, _, h⟩ | ⟨_, _, h⟩ | ⟨_, _, h⟩ | ⟨_, _, h⟩ | ⟨_, _, h⟩ <;>
    rw [h, h] <;> rfl

end fields

/-! ### Packing -/

section packing

variable {s : Sign} {t : ℤ} {r : ℕ}

/-- The bits of a packed finite double; one that is beyond the range becomes infinity. -/
theorem toNat_pack_finite (ht : -1074 ≤ t) (hpos : 0 < r) (hr : r < 2 ^ 53)
    (h : 2 ^ 52 ≤ r ∨ t = -1074) :
    (pack .binary64 (.finite s r t hpos)).toNat = weight s + min (grid t r) infinity := by
  have hbias : (Format.binary64.exponentBias : ℤ) = 1023 := by decide
  have hbits : Format.binary64.mantissaBits = 53 := by decide
  have hbiased : (t + Format.binary64.exponentBias +
      Format.binary64.mantissaBitsWithoutImplicit).toNat = (t + 1074).toNat + 1 := by
    rw [hbias]
    show (t + 1023 + 52).toNat = _
    omega
  have hlog : r.log2 + 1 = 53 ↔ 2 ^ 52 ≤ r := by
    rw [← Nat.le_log2 hpos.ne']
    have := (Nat.log2_lt hpos.ne').mpr hr
    omega
  unfold UnpackedFloat.pack
  simp only [hbiased, hbits, hlog]
  split_ifs with hover hnormal
  · have hinf : (packedInfinity .binary64 s).toNat = weight s + infinity := toNat_fields s (-1) 0
    have hge : infinity ≤ grid t r := by
      have : 2 ^ 11 ≤ (t + 1074).toNat + 1 + 1 := hover
      unfold infinity grid
      omega
    rw [hinf, min_eq_right hge]
  · have hlt : (t + 1074).toNat + 1 < 2047 := by
      have : ¬ 2 ^ 11 ≤ (t + 1074).toNat + 1 + 1 := hover
      omega
    have hle : grid t r ≤ infinity := by unfold infinity grid; omega
    have hgrid : grid t r = ((t + 1074).toNat + 1) * 2 ^ 52 + r % 2 ^ 52 := by unfold grid; omega
    have hf := toNat_fields s (BitVec.ofNat 11 ((t + 1074).toNat + 1)) (BitVec.ofNat 52 r)
    rw [BitVec.toNat_ofNat, BitVec.toNat_ofNat, Nat.mod_eq_of_lt (by omega)] at hf
    rw [min_eq_left hle, hgrid, ← Nat.add_assoc]
    exact hf
  · have hleast : t = -1074 := h.resolve_left hnormal
    have hle : grid t r ≤ infinity := by unfold infinity grid; omega
    have hgrid : grid t r = 0 * 2 ^ 52 + r % 2 ^ 52 := by unfold grid; omega
    have hf := toNat_fields s 0#11 (BitVec.ofNat 52 r)
    rw [BitVec.toNat_ofNat] at hf
    rw [min_eq_left hle, hgrid, ← Nat.add_assoc]
    exact hf

/-- A pattern up to infinity has an exponent field and a fraction field that stand for no missing
number. -/
theorem exists_fields (s : Sign) {n : ℕ} (hn : n ≤ infinity) :
    ∃ e m, (e ≠ -1#11 ∨ m = 0#52) ∧ (fields s e m).toNat = weight s + n := by
  unfold infinity at hn
  refine ⟨BitVec.ofNat 11 (n / 2 ^ 52), BitVec.ofNat 52 (n % 2 ^ 52), ?_, ?_⟩
  · by_cases h : n / 2 ^ 52 = 2047
    · right
      apply BitVec.eq_of_toNat_eq
      rw [BitVec.toNat_ofNat, BitVec.toNat_zero]
      omega
    · left
      intro he
      have := congrArg BitVec.toNat he
      rw [BitVec.toNat_ofNat, Nat.mod_eq_of_lt (by omega)] at this
      exact h this
  · rw [toNat_fields, BitVec.toNat_ofNat, BitVec.toNat_ofNat]
    omega

/-- Packing undoes unpacking, except for the missing numbers. -/
theorem pack_unpack_fields (s : Sign) {e : BitVec 11} {m : BitVec 52}
    (h : e ≠ -1#11 ∨ m = 0#52) :
    pack .binary64 (unpack .binary64 (fields s e m)) = fields s e m := by
  have he := e.isLt
  have hm := m.isLt
  rw [unpack_fields]
  rcases datum_cases e m with
    ⟨h1, hz, hd⟩ | ⟨h1, hz, _⟩ | ⟨h0, hz, hd⟩ | ⟨h0, hz, hd⟩ | ⟨h1, h0, hd⟩
  · rw [hd, h1, hz]
    rfl
  · exact absurd (h.resolve_left (not_not.mpr h1)) hz
  · rw [hd, h0, hz]
    rfl
  · apply BitVec.eq_of_toNat_eq
    rw [hd, toNat_pack_finite le_rfl _ (by omega) (Or.inr rfl), toNat_fields, h0]
    unfold infinity grid
    simp only [BitVec.toNat_zero]
    omega
  · have hlt := toNat_lt_of_ne h1
    have hpos : 0 < e.toNat := BitVec.toNat_pos_of_ne_zero h0
    apply BitVec.eq_of_toNat_eq
    rw [hd, toNat_pack_finite (by omega) _ (by omega) (Or.inl (by omega)), toNat_fields]
    unfold infinity grid
    omega

/-- Unpacking undoes packing for doubles with 53 bits in the range. -/
theorem unpack_pack_finite (ht : -1074 ≤ t) (ht' : t ≤ 971) (hlow : 2 ^ 52 ≤ r) (hr : r < 2 ^ 53) :
    unpack .binary64 (pack .binary64 (.finite s r t (by omega))) =
      .finite s r t (by omega) := by
  have hf : pack .binary64 (.finite s r t (by omega)) =
      fields s (BitVec.ofNat 11 (t + 1075).toNat) (BitVec.ofNat 52 r) := by
    apply BitVec.eq_of_toNat_eq
    rw [toNat_pack_finite ht (by omega) hr (Or.inl hlow), toNat_fields, BitVec.toNat_ofNat,
      BitVec.toNat_ofNat]
    unfold infinity grid
    omega
  have hlt : (t + 1075).toNat < 2047 := by omega
  have he : ((BitVec.ofNat 11 (t + 1075).toNat).toNat : ℤ) - 1075 = t := by
    rw [BitVec.toNat_ofNat, Nat.mod_eq_of_lt (by omega)]
    omega
  have hm : 2 ^ 52 + (BitVec.ofNat 52 r).toNat = r := by
    rw [BitVec.toNat_ofNat]
    omega
  have h1 : BitVec.ofNat 11 (t + 1075).toNat ≠ -1#11 := by
    intro h
    have := congrArg BitVec.toNat h
    rw [BitVec.toNat_ofNat, Nat.mod_eq_of_lt (by omega)] at this
    exact absurd this (Nat.ne_of_lt hlt)
  have h0 : BitVec.ofNat 11 (t + 1075).toNat ≠ 0#11 := by
    intro h
    rw [h] at he
    have : (0 : ℤ) - 1075 = t := he
    omega
  rw [hf, unpack_fields, datum, if_neg h1, if_neg h0]
  exact finite_eq s hm he

end packing

/-! ### Doubles with given bits -/

section patterns

def sign (negative : Bool) : Sign := if negative then .negative else .positive

/-- The double with the sign and the low 63 bits. -/
def ofBits (negative : Bool) (n : ℕ) : Float :=
  .ofBits (.ofNat (if negative then 2 ^ 63 + n else n))

variable {negative : Bool} {n : ℕ} {u : UnpackedFloat}

theorem weight_sign (negative : Bool) : weight (sign negative) = if negative then 2 ^ 63 else 0 := by
  cases negative <;> rfl

theorem ext_toBits {x y : Float} (h : x.toBits = y.toBits) : x = y := by
  obtain ⟨⟨a, _⟩⟩ := x
  obtain ⟨⟨b, _⟩⟩ := y
  obtain rfl : a = b := h
  rfl

theorem toModel_ofBits (negative : Bool) (hn : n ≤ infinity) : ∃ e m,
    (fields (sign negative) e m).toNat = weight (sign negative) + n ∧
    (ofBits negative n).toModel.toBits.toBitVec = fields (sign negative) e m ∧
    ((ofBits negative n).toModel.unpack = unpack .binary64 (fields (sign negative) e m)) ∧
    (e ≠ -1#11 ∨ m = 0#52) := by
  obtain ⟨e, m, h, hf⟩ := exists_fields (sign negative) hn
  have hlt : (if negative then 2 ^ 63 + n else n) < 2 ^ 64 := by
    unfold infinity at hn
    split <;> omega
  have hw : (UInt64.ofNat (if negative then 2 ^ 63 + n else n)).toBitVec =
      fields (sign negative) e m := by
    apply BitVec.eq_of_toNat_eq
    rw [hf, weight_sign]
    refine (Nat.mod_eq_of_lt hlt).trans ?_
    cases negative
    · exact (Nat.zero_add n).symm
    · rfl
  have hbits : (ofBits negative n).toModel.toBits.toBitVec = fields (sign negative) e m := by
    show pack .binary64 (unpack .binary64 (UInt64.ofNat _).toBitVec) = _
    rw [hw, pack_unpack_fields _ h]
  refine ⟨e, m, hf, hbits, ?_, h⟩
  show unpack .binary64 (ofBits negative n).toModel.toBits.toBitVec = _
  rw [hbits]

theorem bits_ofBits (negative : Bool) (hn : n ≤ infinity) :
    (ofBits negative n).toBits.toNat = weight (sign negative) + n := by
  obtain ⟨e, m, hf, hbits, _⟩ := toModel_ofBits negative hn
  rw [← hf, ← hbits]
  rfl

theorem ofModel_pack (hn : n ≤ infinity)
    (h : (pack .binary64 u).toNat = weight (sign negative) + n) :
    Float.ofModel (.pack u) = ofBits negative n := by
  refine ext_toBits (UInt64.toNat_inj.mp ?_)
  rw [bits_ofBits negative hn, ← h]
  rfl

theorem neg_ofBits (hn : n ≤ infinity) : -ofBits false n = ofBits true n := by
  obtain ⟨e, m, hf, _, hu, h⟩ := toModel_ofBits false hn
  have hneg : -ofBits false n = Float.ofModel (.pack (ofBits false n).toModel.unpack.neg) := rfl
  rw [hneg, hu, neg_unpack_fields]
  refine ofModel_pack hn ?_
  rw [pack_unpack_fields _ h, toNat_fields]
  rw [toNat_fields] at hf
  have h0 : weight (sign false) = 0 := rfl
  have h1 : weight (-sign false) = weight (sign true) := rfl
  omega

theorem isFinite_isInf_ofBits (negative : Bool) (hn : n ≤ infinity) :
    (n = infinity ∧ (ofBits negative n).isFinite = false ∧ (ofBits negative n).isInf = true) ∨
    (n < infinity ∧ (ofBits negative n).isFinite = true ∧ (ofBits negative n).isInf = false) := by
  obtain ⟨e, m, hf, _, hu, h⟩ := toModel_ofBits negative hn
  have hfinite : (ofBits negative n).isFinite = (ofBits negative n).toModel.unpack.isFinite := rfl
  have hinf : (ofBits negative n).isInf = (ofBits negative n).toModel.unpack.isInf := rfl
  rw [toNat_fields] at hf
  rw [hfinite, hinf, hu, unpack_fields]
  rcases datum_cases e m with
    ⟨h1, hz, hd⟩ | ⟨h1, hz, _⟩ | ⟨h0, _, hd⟩ | ⟨h0, _, hd⟩ | ⟨h1, _, hd⟩
  · refine Or.inl ⟨?_, by rw [hd]; rfl, by rw [hd]; rfl⟩
    have h2047 : (-1#11).toNat = 2047 := rfl
    have h0 : (0#52).toNat = 0 := rfl
    rw [h1, hz] at hf
    unfold infinity
    omega
  · exact absurd (h.resolve_left (not_not.mpr h1)) hz
  · refine Or.inr ⟨?_, by rw [hd]; rfl, by rw [hd]; rfl⟩
    rw [h0, BitVec.toNat_zero] at hf
    unfold infinity
    omega
  · refine Or.inr ⟨?_, by rw [hd]; rfl, by rw [hd]; rfl⟩
    rw [h0, BitVec.toNat_zero] at hf
    unfold infinity
    omega
  · have hlt := toNat_lt_of_ne h1
    refine Or.inr ⟨?_, by rw [hd]; rfl, by rw [hd]; rfl⟩
    unfold infinity
    omega

theorem isFinite_ofBits (hn : n ≤ infinity) :
    (ofBits negative n).isFinite = !(ofBits negative n).isInf := by
  rcases isFinite_isInf_ofBits negative hn with ⟨_, hf, hi⟩ | ⟨_, hf, hi⟩ <;> rw [hf, hi] <;> rfl

end patterns

end Double
end PenPlotter
