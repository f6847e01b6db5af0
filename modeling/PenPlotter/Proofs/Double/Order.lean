import Mathlib.Data.Int.Order.Basic
import Mathlib.Data.Prod.Lex
import PenPlotter.Scalar

/-! # The order of doubles

Finite doubles have places in a linear order (`rank`), by which they are compared (`lt_iff`,
`le_iff`, `beq_eq`).  So one that is not less than another is at least as large (`le_of_not_lt`).
A double that is a number equals itself (`beq_self`), and no other one does (`isNoNumber_eq_isNaN`).  A finite double that is clamped to a range
lies in the range (`mem_clamp`). -/

namespace PenPlotter
namespace Double

open Float.Model Float.Model.UnpackedFloat

section comparing

/-- The place of finite data: negative, zero or positive, and then outwards from zero by exponent
and significand.  Both zeros have one place. -/
def place : UnpackedFloat → ℤ ×ₗ ℤ ×ₗ ℤ
  | .finite .positive m e _ => toLex (1, toLex (e, (m : ℤ)))
  | .finite .negative m e _ => toLex (-1, toLex (-e, -(m : ℤ)))
  | _ => toLex (0, toLex (0, 0))

theorem compare_natCast (m n : ℕ) : compare (m : ℤ) (n : ℤ) = compare m n := by
  simp only [compare, compareOfLessAndEq, Int.ofNat_lt, Int.ofNat_inj]

theorem compare_neg (a b : ℤ) : compare (-a) (-b) = (compare a b).swap := by
  rcases lt_trichotomy a b with h | h | h
  · rw [compare_lt_iff_lt.mpr h, compare_gt_iff_gt.mpr (by omega)]
    rfl
  · rw [compare_eq_iff_eq.mpr h, compare_eq_iff_eq.mpr (by omega)]
    rfl
  · rw [compare_gt_iff_gt.mpr h, compare_lt_iff_lt.mpr (by omega)]
    rfl

/-- Finite data are compared by their places. -/
theorem compare_place {u v : UnpackedFloat} (hu : u.isFinite = true) (hv : v.isFinite = true) :
    u.compare v = some (compare (place u) (place v)) := by
  cases u with
  | infinity => cases hu
  | notANumber => cases hu
  | zero s =>
      cases v with
      | infinity => cases hv
      | notANumber => cases hv
      | zero s' => rfl
      | finite s' => cases s' <;> rfl
  | finite s m e =>
      cases v with
      | infinity => cases hv
      | notANumber => cases hv
      | zero s' => cases s <;> rfl
      | finite s' m' e' =>
          -- magnitudes are compared, the other way round if both are negative
          cases s <;> cases s'
          · show some ((compare e e').then (compare m m')).swap =
              some ((compare (-e) (-e')).then (compare (-(m : ℤ)) (-(m' : ℤ))))
            rw [Ordering.swap_then, compare_neg, compare_neg, compare_natCast]
          · rfl
          · rfl
          · show some ((compare e e').then (compare m m')) =
              some ((compare e e').then (compare (m : ℤ) (m' : ℤ)))
            rw [compare_natCast]

theorem compare_self {u : UnpackedFloat} (hu : u.isNaN = false) : u.compare u = some .eq := by
  cases u with
  | notANumber => cases hu
  | zero s => rfl
  | infinity s => cases s <;> rfl
  | finite s m e =>
      have h : (compare e e).then (compare m m) = .eq := by simp
      cases s
      · exact congrArg some (congrArg Ordering.swap h)
      · exact congrArg some h

variable {x y : Float}

/-- The place of a finite double. -/
def rank (x : Float) : ℤ ×ₗ ℤ ×ₗ ℤ := place x.toModel.unpack

section rank

variable (hx : x.isFinite = true) (hy : y.isFinite = true)

include hx hy

theorem compare_rank :
    x.toModel.unpack.compare y.toModel.unpack = some (compare (rank x) (rank y)) :=
  compare_place hx hy

theorem lt_iff : x < y ↔ rank x < rank y := by
  have h : x < y ↔ UnpackedFloat.lt x.toModel.unpack y.toModel.unpack = true := decide_eq_true_iff
  rw [h, UnpackedFloat.lt, compare_rank hx hy, beq_iff_eq, Option.some_inj, compare_lt_iff_lt]

theorem le_iff : x ≤ y ↔ rank x ≤ rank y := by
  have h : x ≤ y ↔ UnpackedFloat.le x.toModel.unpack y.toModel.unpack = true := decide_eq_true_iff
  rw [h, UnpackedFloat.le, compare_rank hx hy, Option.any_some]
  exact Ordering.ne_gt_iff_isLE.symm.trans compare_le_iff_le

theorem beq_eq : (x == y) = decide (rank x = rank y) := by
  show (x.toModel.unpack.compare y.toModel.unpack == some .eq) = _
  rw [compare_rank hx hy, Bool.eq_iff_iff, beq_iff_eq, Option.some_inj, compare_eq_iff_eq,
    decide_eq_true_iff]

theorem le_of_not_lt (h : ¬ x < y) : y ≤ x := by
  rw [le_iff hy hx]
  rw [lt_iff hx hy] at h
  exact not_lt.mp h

end rank

theorem beq_self (hx : x.isNaN = false) : (x == x) = true := by
  show (x.toModel.unpack.compare x.toModel.unpack == some .eq) = true
  rw [compare_self hx]
  rfl

/-- What differs from itself is exactly what is no number. -/
theorem isNoNumber_eq_isNaN (x : Float) : Scalar.isNoNumber x = x.isNaN := by
  unfold Scalar.isNoNumber
  cases hnan : x.isNaN with
  | false => rw [beq_self hnan, Bool.not_true]
  | true =>
      change x.toModel.unpack.isNaN = true at hnan
      show (!(x.toModel.unpack.compare x.toModel.unpack == some .eq)) = true
      cases hdata : x.toModel.unpack with
      | notANumber => rfl
      | _ => rw [hdata] at hnan; cases hnan

theorem isNaN_of_isFinite (hx : x.isFinite = true) : x.isNaN = false := by
  change x.toModel.unpack.isFinite = true at hx
  show x.toModel.unpack.isNaN = false
  cases h : x.toModel.unpack with
  | notANumber => rw [h] at hx; cases hx
  | _ => rfl

theorem le_refl (hx : x.isFinite = true) : x ≤ x := (le_iff hx hx).mpr le_rfl

theorem mem_clamp {low high : Float} (hx : x.isFinite = true) (hlow : low.isFinite = true)
    (hhigh : high.isFinite = true) (h : low ≤ high) :
    (Scalar.clamp x low high).isFinite = true ∧ low ≤ Scalar.clamp x low high ∧
      Scalar.clamp x low high ≤ high := by
  unfold Scalar.clamp
  split
  case isTrue => exact ⟨hlow, le_refl hlow, h⟩
  case isFalse hnot =>
    split
    case isTrue => exact ⟨hhigh, h, le_refl hhigh⟩
    case isFalse hnot' =>
      exact ⟨hx, le_of_not_lt hx hlow (fun hlt => hnot (decide_eq_true hlt)),
        le_of_not_lt hhigh hx (fun hlt => hnot' (decide_eq_true hlt))⟩

end comparing

end Double
end PenPlotter
