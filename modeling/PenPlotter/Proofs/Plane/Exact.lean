import Mathlib.Algebra.Order.Field.Rat
import Mathlib.Tactic.FieldSimp
import Mathlib.Tactic.Linarith
import Mathlib.Tactic.NormNum
import Mathlib.Tactic.Ring
import PenPlotter.View.Projector

/-! # Exact geometry

Over the rationals nothing is rounded.  Here the operations on scalars, views and projectors are
read as the usual arithmetic of the rationals: smaller and larger numbers are minimum and maximum,
a zoom factor is moved between `1/4` and `4` (`View.clampZoom_rat`), and a projector of a drawing
has a positive scale (`Projector.scale_fit_pos`), so that its two directions are inverse to each
other (`Projector.map_unmap`). -/

namespace PenPlotter

/-! ### Scalars -/

namespace Scalar

@[simp] theorem isNoNumber_rat (a : Rat) : isNoNumber a = false := by
  show (!(a == a)) = false
  rw [beq_self_eq_true, Bool.not_true]

theorem min_rat (a b : Rat) : Scalar.min a b = Min.min a b := by
  simp only [Scalar.min, isNoNumber_rat, Bool.false_eq_true, if_false]
  show (if decide (b < a) = true then b else a) = Min.min a b
  rcases lt_or_ge b a with h | h
  · rw [if_pos (decide_eq_true h), min_eq_right h.le]
  · rw [if_neg (by simpa using h), min_eq_left h]

theorem max_rat (a b : Rat) : Scalar.max a b = Max.max a b := by
  simp only [Scalar.max, isNoNumber_rat, Bool.false_eq_true, if_false]
  show (if decide (a < b) = true then b else a) = Max.max a b
  rcases lt_or_ge a b with h | h
  · rw [if_pos (decide_eq_true h), max_eq_right h.le]
  · rw [if_neg (by simpa using h), max_eq_left h]

theorem clamp_rat {low high : Rat} (h : low ≤ high) (x : Rat) :
    Scalar.clamp x low high = Max.max low (Min.min x high) := by
  show (if decide (x < low) = true then low else if decide (high < x) = true then high else x) = _
  rcases lt_or_ge x low with hl | hl
  · rw [if_pos (decide_eq_true hl), max_eq_left (le_trans (min_le_left x high) hl.le)]
  · rw [if_neg (by simpa using hl)]
    rcases lt_or_ge high x with hh | hh
    · rw [if_pos (decide_eq_true hh), min_eq_right hh.le, max_eq_right h]
    · rw [if_neg (by simpa using hh), min_eq_left hh, max_eq_right hl]

end Scalar

/-! ### Zoom factors -/

namespace View

theorem minZoom_rat : (minZoom : Rat) = 1 / 4 := by norm_num [minZoom]

theorem maxZoom_rat : (maxZoom : Rat) = 4 := by norm_num [maxZoom]

theorem clampZoom_rat (zoom : Rat) : clampZoom zoom = Max.max (1 / 4) (Min.min zoom 4) := by
  show Scalar.clamp zoom minZoom maxZoom = _
  rw [minZoom_rat, maxZoom_rat, Scalar.clamp_rat (by norm_num)]

/-- The zoom factor is between the least and the greatest one. -/
structure InRange (v : View Rat) : Prop where
  least : 1 / 4 ≤ v.zoom
  most : v.zoom ≤ 4

theorem InRange.pos {v : View Rat} (h : v.InRange) : 0 < v.zoom := by
  have := h.least
  linarith

theorem clampZoom_of_inRange {v : View Rat} (h : v.InRange) : clampZoom v.zoom = v.zoom := by
  rw [clampZoom_rat, min_eq_left h.most, max_eq_right h.least]

theorem inRange_clampZoom (zoom : Rat) (pan : Point Rat) : InRange ⟨clampZoom zoom, pan⟩ where
  least := by
    rw [clampZoom_rat]
    exact le_max_left _ _
  most := by
    rw [clampZoom_rat]
    exact max_le (by norm_num) (min_le_right _ _)

end View

/-! ### Projectors -/

namespace Projector

theorem map_rat (p : Projector Rat) (q : Point Rat) :
    p.map q = ⟨p.viewport.width / 2 + p.pan.x + (q.x - p.center.x) * p.scale,
      p.viewport.height / 2 + p.pan.y - (q.y - p.center.y) * p.scale⟩ := by
  rw [show (2 : Rat) = 2.0 by norm_num]
  rfl

theorem unmap_rat (p : Projector Rat) (s : Point Rat) :
    p.unmap s = ⟨p.center.x + (s.x - p.viewport.width / 2 - p.pan.x) / p.scale,
      p.center.y - (s.y - p.viewport.height / 2 - p.pan.y) / p.scale⟩ := by
  rw [show (2 : Rat) = 2.0 by norm_num]
  rfl

/-- The two directions of a projector are inverse to each other. -/
theorem map_unmap {p : Projector Rat} (h : p.scale ≠ 0) (s : Point Rat) : p.map (p.unmap s) = s := by
  rw [map_rat, unmap_rat]
  congr 1 <;> field_simp <;> ring

theorem available_pos (side padding : Rat) : 0 < available side padding := by
  have one : (1.0 : Rat) = 1 := by norm_num
  show 0 < Scalar.max _ (1.0 : Rat)
  rw [Scalar.max_rat, one]
  exact lt_max_of_lt_right one_pos

theorem minSpan_rat : (minSpan : Rat) = 1 := by norm_num [minSpan]

/-- The screen and what is fitted into it have a least extent, so that the scale is positive. -/
theorem baseScale_fit_pos (box : Box Rat) (viewport : Viewport Rat) (view : View Rat)
    (padding : Rat) : 0 < (fit box viewport view padding).baseScale := by
  have span (extent : Rat) : 0 < Scalar.max extent minSpan := by
    rw [Scalar.max_rat, minSpan_rat]
    exact lt_max_of_lt_right one_pos
  show 0 < Scalar.min _ _
  rw [Scalar.min_rat]
  exact lt_min (div_pos (available_pos _ _) (span _)) (div_pos (available_pos _ _) (span _))

theorem scale_fit_rat (box : Box Rat) (viewport : Viewport Rat) (view : View Rat) (padding : Rat) :
    (fit box viewport view padding).scale =
      (fit box viewport view padding).baseScale * view.zoom := rfl

theorem scale_fit_pos (box : Box Rat) (viewport : Viewport Rat) {view : View Rat} (padding : Rat)
    (h : view.InRange) : 0 < (fit box viewport view padding).scale := by
  rw [scale_fit_rat]
  exact mul_pos (baseScale_fit_pos box viewport view padding) h.pos

end Projector
end PenPlotter
