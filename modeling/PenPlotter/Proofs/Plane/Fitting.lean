import Mathlib.Algebra.Order.Ring.Abs
import Mathlib.Tactic.GCongr
import PenPlotter.Proofs.Plane.Exact
import PenPlotter.Proofs.Plane.Extent

/-! # Fitting a box into the screen

Over the rationals a projector takes the middle of its box to the middle of the screen, displaced by
the pan, and both axes to the screen with one scale, the smaller one of those at which the two sides
of the box fit.  So no point of the box is farther from there than half of the room between the
paddings, multiplied by the zoom (`Projector.abs_map_fit_le`); and along the side that has the
smaller scale the ends of the box are taken to the ends of this room (`Projector.exists_map_fit_x`),
unless the side is shorter than the least span. -/

namespace PenPlotter

/-! ### One axis -/

section axis

variable {low high a room base zoom : Rat}

/-- At a scale at which a span fits into the room, no point of the span is farther from its middle
than half of the room. -/
theorem abs_offset_le (hlow : low ≤ a) (hhigh : a ≤ high) (hbase : 0 ≤ base)
    (hfit : base ≤ room / max (high - low) 1) (hzoom : 0 ≤ zoom) :
    |(a - (low + high) / 2) * (base * zoom)| ≤ room * zoom / 2 := by
  have hspan : 0 < max (high - low) 1 := lt_max_of_lt_right one_pos
  have hoffset : |a - (low + high) / 2| ≤ max (high - low) 1 / 2 := by
    have hle := le_max_left (high - low) 1
    rw [abs_le]
    constructor <;> linarith
  have hroom : max (high - low) 1 * base ≤ room := by
    rw [mul_comm]
    exact (le_div_iff₀ hspan).mp hfit
  calc |(a - (low + high) / 2) * (base * zoom)|
      = |a - (low + high) / 2| * (base * zoom) := by
        rw [abs_mul, abs_of_nonneg (mul_nonneg hbase hzoom)]
    _ ≤ max (high - low) 1 / 2 * (base * zoom) := by gcongr
    _ = max (high - low) 1 * base * zoom / 2 := by ring
    _ ≤ room * zoom / 2 := by gcongr

/-- A span that is not too short fills the room at the greatest such scale. -/
theorem offset_high (hspan : 1 ≤ high - low) (room zoom : Rat) :
    (high - (low + high) / 2) * (room / max (high - low) 1 * zoom) = room * zoom / 2 := by
  have hne : high - low ≠ 0 := by linarith
  rw [max_eq_left hspan]
  field_simp
  ring

theorem offset_low (hspan : 1 ≤ high - low) (room zoom : Rat) :
    (low - (low + high) / 2) * (room / max (high - low) 1 * zoom) = -(room * zoom / 2) := by
  have hmirror : low - (low + high) / 2 = -(high - (low + high) / 2) := by ring
  rw [hmirror, neg_mul, offset_high hspan]

end axis

/-! ### Boxes of rationals -/

/-- Rationals are numbers, and are compared as they are. -/
def exactRanking : Ranking Rat Rat where
  IsNumber _ := True
  rank a := a
  beq_eq _ _ := rfl
  less_eq _ _ := rfl

section exact

variable {ps : Set (Point Rat)} {f : Point Rat → Rat} {a : Rat}

theorem least_exact_iff :
    exactRanking.Least (f '' ps) a ↔ (∀ p ∈ ps, a ≤ f p) ∧ ∃ p ∈ ps, f p = a := by
  constructor
  · intro h
    obtain ⟨_, ⟨p, hp, rfl⟩, hrank⟩ := h.isLeast.1
    exact ⟨fun p hp => h.rank_le ⟨p, hp, rfl⟩, p, hp, hrank⟩
  · rintro ⟨hle, p, hp, rfl⟩
    refine ⟨trivial, ⟨f p, ⟨p, hp, rfl⟩, rfl⟩, ?_⟩
    rintro _ ⟨_, ⟨q, hq, rfl⟩, rfl⟩
    exact hle q hq

theorem greatest_exact_iff :
    exactRanking.Greatest (f '' ps) a ↔ (∀ p ∈ ps, f p ≤ a) ∧ ∃ p ∈ ps, f p = a := by
  constructor
  · intro h
    obtain ⟨_, ⟨p, hp, rfl⟩, hrank⟩ := h.isGreatest.1
    exact ⟨fun p hp => h.rank_le ⟨p, hp, rfl⟩, p, hp, hrank⟩
  · rintro ⟨hle, p, hp, rfl⟩
    refine ⟨trivial, ⟨f p, ⟨p, hp, rfl⟩, rfl⟩, ?_⟩
    rintro _ ⟨_, ⟨q, hq, rfl⟩, rfl⟩
    exact hle q hq

end exact

namespace Box

variable {b : Box Rat}

/-- The corners, from left to right and from the top to the bottom of the screen. -/
def corners (b : Box Rat) : List (Point Rat) :=
  [⟨b.minX, b.maxY⟩, ⟨b.maxX, b.maxY⟩, ⟨b.minX, b.minY⟩, ⟨b.maxX, b.minY⟩]

theorem isExtent_corners (hx : b.minX ≤ b.maxX) (hy : b.minY ≤ b.maxY) :
    b.IsExtent exactRanking {p | p ∈ b.corners} where
  minX := least_exact_iff.mpr (by simp [corners, hx])
  maxX := greatest_exact_iff.mpr (by simp [corners, hx])
  minY := least_exact_iff.mpr (by simp [corners, hy])
  maxY := greatest_exact_iff.mpr (by simp [corners, hy])

theorem center_rat (b : Box Rat) : b.center = ⟨(b.minX + b.maxX) / 2, (b.minY + b.maxY) / 2⟩ := by
  rw [show (2 : Rat) = 2.0 by norm_num]
  rfl

end Box

/-! ### Sheets -/

theorem Sheet.bounds_rat (s : Sheet Rat) :
    s.bounds = ⟨-s.width / 2, s.width / 2, -s.height / 2, s.height / 2⟩ := by
  rw [show (2 : Rat) = 2.0 by norm_num]
  rfl

theorem Sheet.isExtent_bounds {s : Sheet Rat} (hwidth : 0 ≤ s.width) (hheight : 0 ≤ s.height) :
    s.bounds.IsExtent exactRanking {p | p ∈ s.bounds.corners} := by
  apply Box.isExtent_corners <;> rw [bounds_rat] <;> dsimp only <;> linarith

/-! ### Projectors -/

namespace Projector

theorem available_rat (side padding : Rat) :
    available side padding = max (side - 2 * padding) 1 := by
  rw [show (2 : Rat) = 2.0 by norm_num, show (1 : Rat) = 1.0 by norm_num, ← Scalar.max_rat]
  rfl

/-- The smaller one of the scales at which the two sides fit. -/
theorem baseScale_fit_rat (box : Box Rat) (viewport : Viewport Rat) (view : View Rat)
    (padding : Rat) :
    (fit box viewport view padding).baseScale =
      min (max (viewport.width - 2 * padding) 1 / max box.width 1)
        (max (viewport.height - 2 * padding) 1 / max box.height 1) := by
  show Scalar.min (available _ _ / Scalar.max _ minSpan) (available _ _ / Scalar.max _ minSpan) = _
  rw [Scalar.min_rat, Scalar.max_rat, Scalar.max_rat, minSpan_rat, available_rat, available_rat]

/-- The place of the middle of the box on the screen. -/
def middle (viewport : Viewport Rat) (view : View Rat) : Point Rat :=
  ⟨viewport.width / 2 + view.pan.x, viewport.height / 2 + view.pan.y⟩

/-- Half of the room between the paddings of a side, at a zoom factor. -/
def reach (side padding zoom : Rat) : Rat := max (side - 2 * padding) 1 * zoom / 2

variable {box : Box Rat} {viewport : Viewport Rat} {view : View Rat} {padding : Rat}
  {ps : Set (Point Rat)} {m : Point Rat}

theorem map_fit_rat (box : Box Rat) (viewport : Viewport Rat) (view : View Rat) (padding : Rat)
    (m : Point Rat) :
    let base := (fit box viewport view padding).baseScale
    (fit box viewport view padding).map m =
      ⟨(middle viewport view).x + (m.x - (box.minX + box.maxX) / 2) * (base * view.zoom),
        (middle viewport view).y - (m.y - (box.minY + box.maxY) / 2) * (base * view.zoom)⟩ := by
  intro base
  have hcenter : (fit box viewport view padding).center =
      ⟨(box.minX + box.maxX) / 2, (box.minY + box.maxY) / 2⟩ := box.center_rat
  rw [map_rat, hcenter]
  rfl

/-- Nothing in the box is projected farther than the room reaches. -/
theorem abs_map_fit_le (h : box.IsExtent exactRanking ps) (hm : m ∈ ps) (hview : view.InRange) :
    |((fit box viewport view padding).map m).x - (middle viewport view).x| ≤
        reach viewport.width padding view.zoom ∧
      |((fit box viewport view padding).map m).y - (middle viewport view).y| ≤
        reach viewport.height padding view.zoom := by
  have hbase := (baseScale_fit_pos box viewport view padding).le
  have hfit := (baseScale_fit_rat box viewport view padding).le
  rw [map_fit_rat]
  dsimp only
  constructor
  · rw [add_sub_cancel_left]
    exact abs_offset_le (h.minX.rank_le ⟨m, hm, rfl⟩) (h.maxX.rank_le ⟨m, hm, rfl⟩) hbase
      (hfit.trans (min_le_left _ _)) hview.pos.le
  · rw [sub_sub_cancel_left, abs_neg]
    exact abs_offset_le (h.minY.rank_le ⟨m, hm, rfl⟩) (h.maxY.rank_le ⟨m, hm, rfl⟩) hbase
      (hfit.trans (min_le_right _ _)) hview.pos.le

/-- If the horizontal side has the smaller scale and is not too short, its ends reach both ends of
the room. -/
theorem exists_map_fit_x (h : box.IsExtent exactRanking ps)
    (hscale : max (viewport.width - 2 * padding) 1 / max box.width 1 ≤
      max (viewport.height - 2 * padding) 1 / max box.height 1) (hspan : 1 ≤ box.width) :
    (∃ m ∈ ps, ((fit box viewport view padding).map m).x =
        (middle viewport view).x - reach viewport.width padding view.zoom) ∧
      ∃ m ∈ ps, ((fit box viewport view padding).map m).x =
        (middle viewport view).x + reach viewport.width padding view.zoom := by
  have hbase := baseScale_fit_rat box viewport view padding
  rw [min_eq_left hscale] at hbase
  obtain ⟨low, hlow, hminX⟩ := (least_exact_iff.mp h.minX).2
  obtain ⟨high, hhigh, hmaxX⟩ := (greatest_exact_iff.mp h.maxX).2
  refine ⟨⟨low, hlow, ?_⟩, ⟨high, hhigh, ?_⟩⟩
  · rw [map_fit_rat, hbase, hminX, sub_eq_add_neg (middle viewport view).x]
    exact congrArg _ (offset_low hspan _ _)
  · rw [map_fit_rat, hbase, hmaxX]
    exact congrArg _ (offset_high hspan _ _)

theorem exists_map_fit_y (h : box.IsExtent exactRanking ps)
    (hscale : max (viewport.height - 2 * padding) 1 / max box.height 1 ≤
      max (viewport.width - 2 * padding) 1 / max box.width 1) (hspan : 1 ≤ box.height) :
    (∃ m ∈ ps, ((fit box viewport view padding).map m).y =
        (middle viewport view).y - reach viewport.height padding view.zoom) ∧
      ∃ m ∈ ps, ((fit box viewport view padding).map m).y =
        (middle viewport view).y + reach viewport.height padding view.zoom := by
  have hbase := baseScale_fit_rat box viewport view padding
  rw [min_eq_right hscale] at hbase
  obtain ⟨low, hlow, hminY⟩ := (least_exact_iff.mp h.minY).2
  obtain ⟨high, hhigh, hmaxY⟩ := (greatest_exact_iff.mp h.maxY).2
  refine ⟨⟨high, hhigh, ?_⟩, ⟨low, hlow, ?_⟩⟩
  · rw [map_fit_rat, hbase, hmaxY]
    exact congrArg _ (offset_high hspan _ _)
  · rw [map_fit_rat, hbase, hminY, ← sub_neg_eq_add (middle viewport view).y]
    exact congrArg _ (offset_low hspan _ _)

/-- The box of a drawing and of a sheet is the extent of the points of both. -/
theorem extent_combined {bounds : Option (Box Rat)} (h : Box.Extent exactRanking bounds ps)
    {sheet : Option (Sheet Rat)} (hsides : ∀ s ∈ sheet, 0 ≤ s.width ∧ 0 ≤ s.height) :
    Box.Extent exactRanking (combined bounds sheet)
      (ps ∪ {m | m ∈ sheet.toList.flatMap fun s => s.bounds.corners}) := by
  cases sheet with
  | none =>
      have hcombined : combined bounds none = bounds := by cases bounds <;> rfl
      simpa [hcombined] using h
  | some s =>
      have hsheet := Sheet.isExtent_bounds (hsides s rfl).1 (hsides s rfl).2
      rw [Option.toList_some, List.flatMap_singleton]
      cases h with
      | none =>
          rw [Set.empty_union]
          exact .some hsheet
      | some h => exact .some (h.union hsheet)

end Projector
end PenPlotter
