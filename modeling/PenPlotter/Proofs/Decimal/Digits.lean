import Mathlib.Data.Int.Notation
import Mathlib.Data.List.TakeWhile
import PenPlotter.Decimal.Basic

/-! # Digits

What a list of decimal digits is worth, and how digits are cut off a text. -/

namespace PenPlotter

theorem isDigit_iff (c : Char) : c.isDigit ↔ 48 ≤ c.toNat ∧ c.toNat ≤ 57 := by
  simp only [Char.isDigit, Bool.and_eq_true, decide_eq_true_eq, ge_iff_le, UInt32.le_iff_toNat_le]
  rfl

theorem digitsFrom_eq (ds : List Char) : Decimal.digitsFrom 0 ds = Nat.ofDigitChars 10 ds 0 := by
  rw [Nat.ofDigitChars_eq_foldl]
  unfold Decimal.digitsFrom digitValue
  congr 1
  funext n c
  rw [Nat.mul_comm]

theorem ne_point_of_isDigit {c : Char} (h : c.isDigit) : c ≠ '.' := by
  rintro rfl
  exact absurd h (by decide)

section unsigned

variable {whole r : List Char}

theorem takeWhile_whole (h : ∀ c ∈ whole, c.isDigit) {c : Char} (hc : c.isDigit = false) :
    (whole ++ c :: r).takeWhile Char.isDigit = whole ∧
      (whole ++ c :: r).dropWhile Char.isDigit = c :: r := by
  rw [List.takeWhile_append_of_pos h, List.dropWhile_append_of_pos h]
  simp [hc]

theorem takeUnsigned?_digits (negative : Bool) (h : ∀ c ∈ whole, c.isDigit) :
    Decimal.takeUnsigned? negative whole =
      if whole = [] then none
      else some (⟨negative, Nat.ofDigitChars 10 whole 0, 0⟩, []) := by
  have htake : whole.takeWhile Char.isDigit = whole := by simpa using h
  have hdrop : whole.dropWhile Char.isDigit = [] := by simpa using h
  unfold Decimal.takeUnsigned?
  simp only [htake, hdrop]
  cases whole <;> simp [digitsFrom_eq]

theorem takeUnsigned?_point (negative : Bool) (h : ∀ c ∈ whole, c.isDigit) :
    Decimal.takeUnsigned? negative (whole ++ '.' :: r) =
      if whole = [] ∧ r.takeWhile Char.isDigit = [] then none
      else some (⟨negative, Nat.ofDigitChars 10 (whole ++ r.takeWhile Char.isDigit) 0,
        -((r.takeWhile Char.isDigit).length : ℤ)⟩, r.dropWhile Char.isDigit) := by
  obtain ⟨htake, hdrop⟩ := takeWhile_whole h (c := '.') (r := r) rfl
  unfold Decimal.takeUnsigned?
  simp only [htake, hdrop]
  simp [digitsFrom_eq]

end unsigned

end PenPlotter
