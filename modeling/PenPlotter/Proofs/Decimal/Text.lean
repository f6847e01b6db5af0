import PenPlotter.Decimal.Basic
import PenPlotter.Decimal.Shortest
import PenPlotter.Proofs.Decimal.Digits
import PenPlotter.Proofs.Double.Numeral

/-! # Decimals as texts

A decimal in positional notation is the digits of a whole number, and behind a point those of a
fraction, if there is one.  `Written` says which digits write which decimal, `exists_positional`
that every decimal is written so, and `Written.ofText?_eq` that digits are read back. -/

namespace PenPlotter

open Double

/-- Digits of a whole number as they are written: a zero leads no others. -/
structure IsWhole (ds : List Char) : Prop where
  ne_nil : ds ≠ []
  digits : ∀ c ∈ ds, c.isDigit
  zero : ds.head? = some '0' → ds = ['0']

theorem isDigit_toDigits (n : ℕ) : ∀ c ∈ Nat.toDigits 10 n, c.isDigit :=
  fun _ hc => Nat.isDigit_of_mem_toDigits (by norm_num) (by norm_num) hc

theorem isWhole_toDigits (n : ℕ) : IsWhole (Nat.toDigits 10 n) := by
  refine ⟨Nat.toDigits_ne_nil, isDigit_toDigits n, ?_⟩
  induction n using Nat.strongRecOn with
  | _ n ih =>
      rcases Nat.lt_or_ge n 10 with hlt | hge
      · rw [Nat.toDigits_of_lt_base hlt]
        intro h
        rw [List.head?_cons, Option.some.injEq] at h
        rw [h]
      · rw [Nat.toDigits_of_base_le (by norm_num) hge,
          List.head?_append_of_ne_nil _ Nat.toDigits_ne_nil]
        intro h
        have hzero := congrArg (Nat.ofDigitChars 10 · 0) (ih (n / 10) (by omega) h)
        rw [Nat.ofDigitChars_ten_toDigits] at hzero
        have : n / 10 = 0 := hzero
        omega

namespace Decimal

/-- The digits before and behind the point write the magnitude of a decimal. -/
structure Written (d : Decimal) (whole fraction : List Char) : Prop where
  isWhole : IsWhole whole
  digits : ∀ c ∈ fraction, c.isDigit
  magnitude : d.magnitude =
    (Nat.ofDigitChars 10 (whole ++ fraction) 0 : ℕ) * 10 ^ (-(fraction.length : ℤ))

variable {d : Decimal} {whole fraction : List Char}

theorem Written.pointed (h : d.Written whole []) : d.Written whole ['0'] := by
  refine ⟨h.isWhole, List.forall_mem_singleton.2 rfl, ?_⟩
  have hvalue : Nat.ofDigitChars 10 (whole ++ ['0']) 0 = 10 * Nat.ofDigitChars 10 whole 0 := by
    rw [Nat.ofDigitChars_append]
    rfl
  rw [h.magnitude, hvalue, List.append_nil]
  norm_num
  ring

theorem digitText_isWhole (d : Decimal) : IsWhole d.digitText := isWhole_toDigits _

theorem ofDigitChars_digitText (d : Decimal) : Nat.ofDigitChars 10 d.digitText 0 = d.coefficient :=
  Nat.ofDigitChars_ten_toDigits

theorem written_zero (h : d.coefficient = 0) : d.Written ['0'] [] := by
  refine ⟨⟨by decide, List.forall_mem_singleton.2 rfl, fun _ => rfl⟩, by simp, ?_⟩
  rw [magnitude, h, Nat.cast_zero, zero_mul]
  norm_num [Nat.ofDigitChars]

theorem written_zeros (hd : 0 < d.coefficient) (he : 0 ≤ d.exponent) :
    d.Written (d.digitText ++ List.replicate d.exponent.toNat '0') [] := by
  have hdigits := d.digitText_isWhole
  refine ⟨⟨by simp [hdigits.ne_nil], ?_, fun h => ?_⟩, by simp, ?_⟩
  · intro c hc
    rcases List.mem_append.1 hc with hc | hc
    · exact hdigits.digits c hc
    · rw [List.eq_of_mem_replicate hc]
      decide
  · rw [List.head?_append_of_ne_nil _ hdigits.ne_nil] at h
    have hvalue := d.ofDigitChars_digitText
    rw [hdigits.zero h] at hvalue
    exact absurd hvalue.symm hd.ne'
  · rw [List.append_nil, Nat.ofDigitChars_append, ofDigitChars_digitText,
      Nat.ofDigitChars_replicate_zero, magnitude, Nat.cast_mul, cast_ten_pow he]
    simp [mul_comm]

theorem written_cut {places : ℕ} (he : d.exponent = -(places : ℤ)) (hpos : 0 < places)
    (hlt : places < d.digitText.length) :
    d.Written (d.digitText.take (d.digitText.length - places))
      (d.digitText.drop (d.digitText.length - places)) := by
  have hdigits := d.digitText_isWhole
  refine ⟨⟨?_, fun c hc => hdigits.digits c (List.mem_of_mem_take hc), fun h => ?_⟩,
    fun c hc => hdigits.digits c (List.mem_of_mem_drop hc), ?_⟩
  · rw [ne_eq, List.take_eq_nil_iff]
    rintro (h | h)
    · omega
    · exact hdigits.ne_nil h
  · rw [List.head?_take, if_neg (by omega)] at h
    have hlength := congrArg List.length (hdigits.zero h)
    rw [List.length_singleton] at hlength
    omega
  · rw [List.take_append_drop, ofDigitChars_digitText, List.length_drop, magnitude, he,
      Nat.sub_sub_self hlt.le]

theorem written_small {places : ℕ} (he : d.exponent = -(places : ℤ))
    (hge : d.digitText.length ≤ places) :
    d.Written ['0'] (List.replicate (places - d.digitText.length) '0' ++ d.digitText) := by
  refine ⟨⟨by decide, List.forall_mem_singleton.2 rfl, fun _ => rfl⟩, ?_, ?_⟩
  · intro c hc
    rcases List.mem_append.1 hc with hc | hc
    · rw [List.eq_of_mem_replicate hc]
      decide
    · exact d.digitText_isWhole.digits c hc
  · have hzeros : Nat.ofDigitChars 10 (['0'] ++ List.replicate (places - d.digitText.length) '0') 0
        = 0 := by
      rw [Nat.ofDigitChars_append, Nat.ofDigitChars_replicate_zero]
      rfl
    rw [← List.append_assoc, Nat.ofDigitChars_append, hzeros, ofDigitChars_digitText,
      List.length_append, List.length_replicate, Nat.sub_add_cancel hge, magnitude, he]

/-- **Positional notation.**  What is put behind whole numbers stands behind no other. -/
theorem exists_positional (d : Decimal) :
    ∃ whole fraction, d.Written whole fraction ∧
      ∀ tail, (d.positional tail).toList =
        whole ++ if fraction = [] then tail.toList else '.' :: fraction := by
  by_cases he : 0 ≤ d.exponent
  · by_cases hd : d.coefficient = 0
    · refine ⟨_, _, written_zero hd, fun tail => ?_⟩
      rw [positional, if_pos he, if_pos hd, String.toList_append, if_pos rfl]
      rfl
    · refine ⟨_, _, written_zeros (Nat.pos_of_ne_zero hd) he, fun tail => ?_⟩
      rw [positional, if_pos he, if_neg hd, if_pos rfl]
      simp [zeros]
  · obtain ⟨places, hplaces⟩ : ∃ places : ℕ, d.exponent = -(places : ℤ) :=
      ⟨(-d.exponent).toNat, by omega⟩
    have hto : (-d.exponent).toNat = places := by omega
    by_cases hlt : places < d.digitText.length
    · refine ⟨_, _, written_cut hplaces (by omega) hlt, fun tail => ?_⟩
      have hne : d.digitText.drop (d.digitText.length - places) ≠ [] := by
        rw [ne_eq, List.drop_eq_nil_iff]
        omega
      rw [positional, if_neg he, hto, if_neg hne]
      simp [hlt]
    · refine ⟨_, _, written_small hplaces (not_lt.1 hlt), fun tail => ?_⟩
      have hne : List.replicate (places - d.digitText.length) '0' ++ d.digitText ≠ [] := by
        simp [d.digitText_isWhole.ne_nil]
      rw [positional, if_neg he, hto, if_neg hne]
      simp [hlt, zeros]

/-! ### Signs and reading -/

def signChars (negative : Bool) : List Char := if negative then ['-'] else []

theorem toList_signText (d : Decimal) : d.signText.toList = signChars d.negative := by
  rw [signText, signChars]
  cases d.negative <;> rfl

theorem toList_toString (n : ℤ) : (toString n).toList =
    signChars (decide (n < 0)) ++ Nat.toDigits 10 n.natAbs := by
  rw [Int.toString_eq_repr, Int.repr_eq_if]
  by_cases hn : 0 ≤ n
  · have hsign : ¬n < 0 := by omega
    have habs : n.toNat = n.natAbs := by omega
    simp [hn, hsign, habs, signChars]
  · have hsign : n < 0 := by omega
    have habs : (-n).toNat = n.natAbs := by omega
    simp [hn, hsign, habs, signChars]

/-- The text of a finite double is its shortest decimal, with a point only before a fraction. -/
theorem exists_numberText {x : Float} (hx : x.isFinite = true) :
    ∃ whole fraction, (Shortest.ofFloat .up x).Written whole fraction ∧
      (numberText x).toList = signChars (Shortest.ofFloat .up x).negative ++
        (whole ++ if fraction = [] then [] else '.' :: fraction) := by
  obtain ⟨whole, fraction, hwritten, htext⟩ := (Shortest.ofFloat .up x).exists_positional
  refine ⟨whole, fraction, hwritten, ?_⟩
  rw [numberText, if_pos hx, plainText, String.toList_append, toList_signText, htext]
  rfl

theorem exists_marked (d : Decimal) :
    ∃ whole fraction, d.Written whole fraction ∧ fraction ≠ [] ∧
      d.markedText.toList = signChars d.negative ++ whole ++ '.' :: fraction := by
  obtain ⟨whole, fraction, hwritten, htext⟩ := d.exists_positional
  have hmarked : d.markedText.toList = signChars d.negative ++ whole ++
      if fraction = [] then ['.', '0'] else '.' :: fraction := by
    rw [markedText, String.toList_append, toList_signText, htext, List.append_assoc]
    rfl
  by_cases hnil : fraction = []
  · subst hnil
    exact ⟨whole, ['0'], hwritten.pointed, by decide, by rw [hmarked, if_pos rfl]⟩
  · exact ⟨whole, fraction, hwritten, hnil, by rw [hmarked, if_neg hnil]⟩

theorem IsWhole.takeSign_append {whole : List Char} (h : IsWhole whole) (negative : Bool)
    (rest : List Char) :
    takeSign (signChars negative ++ (whole ++ rest)) = (negative, whole ++ rest) := by
  cases negative with
  | true => rfl
  | false =>
      obtain ⟨c, cs, rfl⟩ := List.exists_cons_of_ne_nil h.ne_nil
      have hc := h.digits c List.mem_cons_self
      rw [signChars, if_neg Bool.false_ne_true, List.nil_append]
      unfold takeSign
      split
      · rename_i heq
        exact absurd ((List.cons.inj heq).1 ▸ hc) (by decide)
      · rename_i heq
        exact absurd ((List.cons.inj heq).1 ▸ hc) (by decide)
      · rfl

/-- Digits with a point among them are read for what they write. -/
theorem Written.ofText?_eq (h : d.Written whole fraction) :
    ofText? (signChars d.negative ++ (whole ++ '.' :: fraction)) =
      some ⟨d.negative, Nat.ofDigitChars 10 (whole ++ fraction) 0, -(fraction.length : ℤ)⟩ := by
  have htake : fraction.takeWhile Char.isDigit = fraction := by simpa using h.digits
  have hdrop : fraction.dropWhile Char.isDigit = [] := by simpa using h.digits
  have hread := takeUnsigned?_point d.negative h.isWhole.digits (r := fraction)
  rw [htake, hdrop, if_neg fun hnil => h.isWhole.ne_nil hnil.1] at hread
  simp only [ofText?, IsWhole.takeSign_append h.isWhole, hread]

theorem Written.ofPlain?_eq (h : d.Written whole fraction) :
    ofPlain? (signChars d.negative ++ (whole ++ if fraction = [] then [] else '.' :: fraction)) =
      some ⟨d.negative, Nat.ofDigitChars 10 (whole ++ fraction) 0, -(fraction.length : ℤ)⟩ := by
  by_cases hnil : fraction = []
  · subst hnil
    have hread := takeUnsigned?_digits d.negative h.isWhole.digits
    rw [if_neg h.isWhole.ne_nil] at hread
    have hsign := IsWhole.takeSign_append h.isWhole d.negative []
    rw [List.append_nil] at hsign
    simp only [ofPlain?, if_pos, List.append_nil, hsign, hread, List.length_nil, Nat.cast_zero,
      neg_zero]
  · have htake : fraction.takeWhile Char.isDigit = fraction :=
      List.takeWhile_eq_self_iff.mpr h.digits
    have hdrop : fraction.dropWhile Char.isDigit = [] := List.dropWhile_eq_nil_iff.mpr h.digits
    have hread := takeUnsigned?_point d.negative h.isWhole.digits (r := fraction)
    rw [htake, hdrop, if_neg fun hboth => h.isWhole.ne_nil hboth.1] at hread
    simp only [ofPlain?, if_neg hnil, IsWhole.takeSign_append h.isWhole, hread]

theorem Written.toFloat_eq (h : d.Written whole fraction) :
    Decimal.toFloat ⟨d.negative, Nat.ofDigitChars 10 (whole ++ fraction) 0,
      -(fraction.length : ℤ)⟩ = d.toFloat := by
  rw [Decimal.toFloat_eq, Decimal.toFloat_eq, h.magnitude]
  rfl

end Decimal
end PenPlotter
