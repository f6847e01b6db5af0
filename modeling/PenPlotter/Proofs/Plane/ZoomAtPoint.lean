import PenPlotter.Preview.Renderer
import PenPlotter.Proofs.Plane.Exact

/-! # Zooming at a point of the screen

Zooming at a point keeps the drawing in place under that point.  `View.anchoredPan` is the pan
that does so for a given zoom factor, and a view is `Anchored` to an earlier one when it has that
pan.  The relation is transitive and every step keeps it, whether the range of zoom factors cuts
the step or not, so that it holds after any number of steps at one point.  An anchored view shows
under the point what the earlier view showed there (`Projector.map_unmap_of_anchored`), which
gives the main statement `map_unmap_zoomSteps`. -/

namespace PenPlotter

/-! ### Views -/

namespace View

/-- The pan that keeps the drawing in place under the cursor when the zoom factor changes. -/
def anchoredPan (v : View Rat) (cursor : Point Rat) (zoom : Rat) : Point Rat :=
  ⟨cursor.x - (cursor.x - v.pan.x) * (zoom / v.zoom),
    cursor.y - (cursor.y - v.pan.y) * (zoom / v.zoom)⟩

/-- The later view `w` has the drawing in the same place under the cursor. -/
structure Anchored (cursor : Point Rat) (v w : View Rat) : Prop where
  inRange : w.InRange
  pan_eq : w.pan = v.anchoredPan cursor w.zoom

variable {u v w : View Rat} {cursor : Point Rat}

theorem anchoredPan_self (h : v.zoom ≠ 0) : v.anchoredPan cursor v.zoom = v.pan := by
  unfold anchoredPan
  rw [div_self h, mul_one, mul_one, sub_sub_cancel, sub_sub_cancel]

theorem Anchored.refl (h : v.InRange) : Anchored cursor v v :=
  ⟨h, (anchoredPan_self h.pos.ne').symm⟩

/-- The pan for a third zoom factor does not depend on the second one. -/
theorem Anchored.anchoredPan_eq (h : Anchored cursor v w) (zoom : Rat) :
    w.anchoredPan cursor zoom = v.anchoredPan cursor zoom := by
  have ratio (a : Rat) : a * (w.zoom / v.zoom) * (zoom / w.zoom) = a * (zoom / v.zoom) := by
    rw [mul_assoc, div_mul_div_cancel₀' h.inRange.pos.ne']
  unfold anchoredPan
  rw [h.pan_eq]
  unfold anchoredPan
  simp only [sub_sub_cancel, ratio]

theorem Anchored.trans (h₁ : Anchored cursor u v) (h₂ : Anchored cursor v w) :
    Anchored cursor u w :=
  ⟨h₂.inRange, h₂.pan_eq.trans (h₁.anchoredPan_eq w.zoom)⟩

theorem zoomedAt_of_absorbed {factor : Rat} (h : clampZoom (v.zoom * factor) = v.zoom) :
    v.zoomedAt cursor factor = v :=
  if_pos (beq_iff_eq.mpr h)

theorem zoomedAt_of_not_absorbed {factor : Rat} (h : clampZoom (v.zoom * factor) ≠ v.zoom) :
    v.zoomedAt cursor factor =
      ⟨clampZoom (v.zoom * factor),
        ⟨cursor.x - (cursor.x - v.pan.x) / v.zoom * clampZoom (v.zoom * factor),
          cursor.y - (cursor.y - v.pan.y) / v.zoom * clampZoom (v.zoom * factor)⟩⟩ :=
  if_neg fun e => h (beq_iff_eq.mp e)

/-- Every step anchors the view, also one that is cut or absorbed. -/
theorem anchored_zoomedAt (h : v.InRange) (cursor : Point Rat) (factor : Rat) :
    Anchored cursor v (v.zoomedAt cursor factor) := by
  by_cases hz : clampZoom (v.zoom * factor) = v.zoom
  · rw [zoomedAt_of_absorbed hz]
    exact .refl h
  · rw [zoomedAt_of_not_absorbed hz]
    refine ⟨inRange_clampZoom _ _, ?_⟩
    exact congrArg₂ Point.mk (by ring) (by ring)

end View

/-! ### Projectors -/

namespace Projector

theorem fit_eq (box : Box Rat) (viewport : Viewport Rat) (v : View Rat) (padding : Rat) :
    fit box viewport v padding =
      { viewport, center := box.center
        baseScale := (fit box viewport View.home padding).baseScale
        scale := (fit box viewport View.home padding).baseScale * v.zoom
        pan := v.pan } := rfl

/-- An anchored view shows the earlier picture scaled about the point. -/
theorem map_of_anchored (box : Box Rat) (viewport : Viewport Rat) (padding : Rat) {v w : View Rat}
    (hv : v.InRange) {point : Point Rat}
    (h : View.Anchored ⟨point.x - viewport.width / 2, point.y - viewport.height / 2⟩ v w)
    (m : Point Rat) :
    let before := (fit box viewport v padding).map m
    (fit box viewport w padding).map m =
      ⟨point.x + (before.x - point.x) * (w.zoom / v.zoom),
        point.y + (before.y - point.y) * (w.zoom / v.zoom)⟩ := by
  have hzoom := hv.pos.ne'
  simp only [map_rat, fit_eq box viewport w, fit_eq box viewport v, h.pan_eq, View.anchoredPan]
  generalize (fit box viewport View.home padding).baseScale = base
  congr 1 <;> field_simp <;> ring

/-- So it shows under the point what the earlier view showed there. -/
theorem map_unmap_of_anchored (box : Box Rat) (viewport : Viewport Rat) (padding : Rat)
    {v w : View Rat} (hv : v.InRange) {point : Point Rat}
    (h : View.Anchored ⟨point.x - viewport.width / 2, point.y - viewport.height / 2⟩ v w) :
    (fit box viewport w padding).map ((fit box viewport v padding).unmap point) = point := by
  rw [map_of_anchored box viewport padding hv h,
    map_unmap (scale_fit_pos box viewport padding hv).ne']
  simp only [sub_self, zero_mul, add_zero]

end Projector

/-! ### Previews -/

namespace Preview

/-- A point of the screen as seen from the middle of the screen. -/
def fromMiddle (p : Preview Rat) (point : Point Rat) : Point Rat :=
  ⟨point.x - p.viewport.width / 2, point.y - p.viewport.height / 2⟩

theorem eq_of_beq {v w : View Rat} (h : (v == w) = true) : v = w := by
  obtain ⟨zoom, pan⟩ := v
  obtain ⟨zoom', pan'⟩ := w
  obtain ⟨hz, hp⟩ := Bool.and_eq_true_iff.mp h
  obtain ⟨hx, hy⟩ := Bool.and_eq_true_iff.mp hp
  have ex : pan.x = pan'.x := of_decide_eq_true hx
  have ey : pan.y = pan'.y := of_decide_eq_true hy
  have ez : zoom = zoom' := of_decide_eq_true hz
  rw [ez, show pan = pan' from congrArg₂ Point.mk ex ey]

/-- To show an equal view is no change, so that the new view is shown in any case. -/
theorem setView_fst (p : Preview Rat) (v : View Rat) : (p.setView v).1 = { p with view := v } := by
  unfold setView
  split
  · next h => rw [← eq_of_beq h]
  · rfl

theorem zoomAt_fst (p : Preview Rat) (point : Point Rat) (factor : Rat) :
    (p.zoomAt point factor).1 = { p with view := p.view.zoomedAt (p.fromMiddle point) factor } := by
  unfold zoomAt fromMiddle
  rw [setView_fst, show (2 : Rat) = 2.0 by norm_num]
  rfl

end Preview

/-! ### Steps of a renderer -/

/-- One step of zooming: by a factor, or by a turn of the wheel. -/
inductive ZoomStep where
  | scale (factor : Rat)
  | wheel (delta : Rat)
deriving Repr, DecidableEq, Inhabited

/-- The factor of a step, before the range of zoom factors cuts it. -/
def ZoomStep.factor : ZoomStep → Rat
  | .scale factor => factor
  | .wheel delta => ((WheelDirection.ofDelta? delta).map WheelDirection.factor).getD 1

namespace Renderer

/-- A step of zooming at a point of the screen. -/
def zoomStep (r : Renderer Rat) (point : Point Rat) : ZoomStep → Renderer Rat
  | .scale factor => (r.change (·.zoomAt point factor)).1
  | .wheel delta => (r.wheel point delta).1

/-- Steps of zooming, all at one point. -/
def zoomSteps (r : Renderer Rat) (point : Point Rat) (steps : List ZoomStep) : Renderer Rat :=
  steps.foldl (fun r step => r.zoomStep point step) r

def withView (r : Renderer Rat) (v : View Rat) : Renderer Rat :=
  { r with state := { r.state with view := v } }

variable {r : Renderer Rat} {point : Point Rat}

theorem change_fst (f : Preview Rat → Preview Rat × Option (PreviewEvent Rat)) :
    (r.change f).1 = { r with state := (f r.state).1 } := rfl

theorem wheel_fst (r : Renderer Rat) (point : Point Rat) (delta : Rat) :
    (r.wheel point delta).1 =
      ((WheelDirection.ofDelta? delta).map fun d => (r.change (·.zoomAt point d.factor)).1).getD r := by
  unfold wheel
  cases WheelDirection.ofDelta? delta <;> rfl

theorem zoomStep_eq (h : r.state.view.InRange) (point : Point Rat) (step : ZoomStep) :
    r.zoomStep point step =
      r.withView (r.state.view.zoomedAt (r.state.fromMiddle point) step.factor) := by
  cases step with
  | scale factor =>
      simp only [zoomStep, ZoomStep.factor, change_fst, Preview.zoomAt_fst, withView]
  | wheel delta =>
      simp only [zoomStep, ZoomStep.factor, wheel_fst]
      cases WheelDirection.ofDelta? delta with
      | none =>
          -- A wheel that does not turn is a step by the factor 1, which is absorbed.
          have habs : View.clampZoom (r.state.view.zoom * 1) = r.state.view.zoom := by
            rw [mul_one, View.clampZoom_of_inRange h]
          simp only [Option.map_none, Option.getD_none, View.zoomedAt_of_absorbed habs, withView]
      | some direction =>
          simp only [Option.map_some, Option.getD_some, change_fst, Preview.zoomAt_fst, withView]

/-- Steps at one point change nothing but the view, and the new view is anchored to the old one. -/
theorem zoomSteps_eq (h : r.state.view.InRange) (point : Point Rat) (steps : List ZoomStep) :
    ∃ w, View.Anchored (r.state.fromMiddle point) r.state.view w ∧
      r.zoomSteps point steps = r.withView w := by
  induction steps generalizing r with
  | nil => exact ⟨r.state.view, .refl h, rfl⟩
  | cons step steps ih =>
      have hstep := View.anchored_zoomedAt h (r.state.fromMiddle point) step.factor
      have hfirst := zoomStep_eq h point step
      generalize r.state.view.zoomedAt (r.state.fromMiddle point) step.factor = v at hstep hfirst
      obtain ⟨w, hw, hrun⟩ := ih (r := r.withView v) hstep.inRange
      refine ⟨w, hstep.trans hw, ?_⟩
      show (r.zoomStep point step).zoomSteps point steps = r.withView w
      rw [hfirst, hrun]
      rfl

/-- **Zooming at a point.** After any steps at one point of the screen, cut or absorbed ones
included, the model point that lay under it lies under it again; the pan is the one that belongs
to the zoom factor reached, whatever the steps on the way were; and a step that the range of
zoom factors absorbs changes nothing. -/
theorem map_unmap_zoomSteps {q : Projector Rat} (hq : r.state.projector? = some q)
    (hrange : r.state.view.InRange) (point : Point Rat) (steps : List ZoomStep) :
    let r' := r.zoomSteps point steps
    (∃ q', r'.state.projector? = some q' ∧ q'.map (q.unmap point) = point) ∧
    r'.state.view.pan =
      r.state.view.anchoredPan (r.state.fromMiddle point) r'.state.view.zoom ∧
    ∀ step : ZoomStep, View.clampZoom (r'.state.view.zoom * step.factor) = r'.state.view.zoom →
      r'.zoomStep point step = r' := by
  intro r'
  obtain ⟨w, hw, hr'⟩ : ∃ w, _ ∧ r' = _ := zoomSteps_eq hrange point steps
  obtain ⟨box, hbox, rfl⟩ := Option.map_eq_some_iff.mp hq
  refine ⟨?_, ?_, ?_⟩
  · refine ⟨Projector.fit box r.state.viewport w r.state.padding, ?_, ?_⟩
    · rw [hr']
      exact Option.map_eq_some_iff.mpr ⟨box, hbox, rfl⟩
    · exact Projector.map_unmap_of_anchored box r.state.viewport r.state.padding hrange hw
  · rw [hr']
    exact hw.pan_eq
  · intro step habs
    have hr : r'.state.view.InRange := by
      rw [hr']
      exact hw.inRange
    rw [zoomStep_eq hr, View.zoomedAt_of_absorbed habs]
    rfl

/-- A sheet of paper on a screen of 800 by 600 pixels, moved to the side. -/
def sheetMoved : Renderer Rat :=
  .new { Preview.new ⟨800, 600⟩ with paper := some ⟨"A4", 210, 297⟩, view := ⟨1, ⟨30, -20⟩⟩ }

/-- Four steps at one point: to three times the size, by the wheel, cut at the greatest factor,
and absorbed there. -/
theorem map_unmap_zoomSteps_cut :
    let q := Projector.fit (Sheet.bounds ⟨210, 297⟩) sheetMoved.state.viewport
      sheetMoved.state.view sheetMoved.state.padding
    let r' := sheetMoved.zoomSteps ⟨610, 120⟩ [.scale 3, .wheel (-1), .scale 2, .wheel (-1)]
    r'.state.view.zoom = 4 ∧ r'.state.view.pan = ⟨-510, 460⟩ ∧
      ∃ q', r'.state.projector? = some q' ∧ q'.map (q.unmap ⟨610, 120⟩) = ⟨610, 120⟩ := by
  intro q r'
  have hq : sheetMoved.state.projector? = some q := rfl
  have hrange : sheetMoved.state.view.InRange := ⟨by decide +kernel, by decide +kernel⟩
  obtain ⟨hmap, hpan, _⟩ := map_unmap_zoomSteps hq hrange ⟨610, 120⟩
    [.scale 3, .wheel (-1), .scale 2, .wheel (-1)]
  have hzoom : r'.state.view.zoom = 4 := by decide +kernel
  refine ⟨hzoom, ?_, hmap⟩
  rw [hpan, hzoom]
  exact congrArg₂ Point.mk (by decide +kernel) (by decide +kernel)

end Renderer
end PenPlotter
