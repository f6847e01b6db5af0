import Mathlib.Data.List.Induction
import PenPlotter.Proofs.Plane.ZoomAtPoint

/-! # What is grabbed

The pointer goes down on a point of the drawing and moves, and now and then the wheel turns where
the pointer is.  A zoom step keeps under the pointer what lies there.  A move sets the pan that
belongs to the view in which the pointer went down, so that after a change of the zoom factor the
grabbed point lies elsewhere, displaced by `View.slip`.

So the grabbed point stays under the pointer exactly as long as no move is made at another zoom
factor than the one at which the pointer went down, or if it is the point on which the pan puts the
middle of the drawing (`Gesture.holds_run_iff`). -/

namespace PenPlotter

/-! ### Views -/

namespace View

/-- The pan at which the point that the view `v` shows at `start` is shown at `cursor`. -/
def carriedPan (v : View Rat) (start cursor : Point Rat) (zoom : Rat) : Point Rat :=
  ⟨cursor.x - (start.x - v.pan.x) * (zoom / v.zoom),
    cursor.y - (start.y - v.pan.y) * (zoom / v.zoom)⟩

/-- How far from the cursor that point is shown, if the pan is moved as far as the cursor. -/
def slip (v : View Rat) (start : Point Rat) (zoom : Rat) : Point Rat :=
  ⟨(start.x - v.pan.x) * (zoom / v.zoom - 1), (start.y - v.pan.y) * (zoom / v.zoom - 1)⟩

variable {v w : View Rat} {start cursor : Point Rat}

theorem zoom_zoomedAt (v : View Rat) (cursor : Point Rat) (factor : Rat) :
    (v.zoomedAt cursor factor).zoom = clampZoom (v.zoom * factor) := by
  by_cases h : clampZoom (v.zoom * factor) = v.zoom
  · rw [zoomedAt_of_absorbed h, h]
  · rw [zoomedAt_of_not_absorbed h]

theorem clampZoom_ne_zero (zoom : Rat) : clampZoom zoom ≠ 0 :=
  (inRange_clampZoom zoom Point.origin).pos.ne'

/-- A zoom step keeps the point that is shown at the cursor. -/
theorem pan_zoomedAt (hw : w.zoom ≠ 0) (hpan : w.pan = v.carriedPan start cursor w.zoom)
    (factor : Rat) :
    (w.zoomedAt cursor factor).pan =
      v.carriedPan start cursor (w.zoomedAt cursor factor).zoom := by
  rw [zoom_zoomedAt]
  by_cases h : clampZoom (w.zoom * factor) = w.zoom
  · rw [zoomedAt_of_absorbed h, h, hpan]
  · rw [zoomedAt_of_not_absorbed h]
    have ratio (a : Rat) : a * (w.zoom / v.zoom) / w.zoom * clampZoom (w.zoom * factor) =
        a * (clampZoom (w.zoom * factor) / v.zoom) := by
      field_simp
    rw [hpan]
    unfold carriedPan
    simp only [sub_sub_cancel, ratio]

/-- A pan that is moved as far as the cursor is the right one if and only if nothing slips. -/
theorem moved_eq_carriedPan_iff (v : View Rat) (start cursor : Point Rat) (zoom : Rat) :
    (⟨cursor.x - (start.x - v.pan.x), cursor.y - (start.y - v.pan.y)⟩ : Point Rat) =
      v.carriedPan start cursor zoom ↔ v.slip start zoom = ⟨0, 0⟩ := by
  have coordinate (a b : Rat) : a - b = a - b * (zoom / v.zoom) ↔ b * (zoom / v.zoom - 1) = 0 := by
    constructor <;> intro h <;> linarith
  unfold carriedPan slip
  rw [Point.mk.injEq, Point.mk.injEq, coordinate, coordinate]

/-- Nothing slips at the zoom factor of the view, and nothing ever slips of the point on which the
pan puts the middle of the drawing. -/
theorem slip_eq_zero_iff (hv : v.zoom ≠ 0) (zoom : Rat) :
    v.slip start zoom = ⟨0, 0⟩ ↔ v.pan = start ∨ zoom = v.zoom := by
  have hratio : zoom / v.zoom - 1 = 0 ↔ zoom = v.zoom := by
    rw [sub_eq_zero, div_eq_one_iff_eq hv]
  unfold slip
  rw [Point.mk.injEq, mul_eq_zero, mul_eq_zero, hratio, sub_eq_zero, sub_eq_zero]
  constructor
  · rintro ⟨hx | hx, hy | hy⟩
    · exact Or.inl (congrArg₂ Point.mk hx.symm hy.symm)
    · exact Or.inr hy
    · exact Or.inr hx
    · exact Or.inr hx
  · rintro (rfl | h)
    · exact ⟨Or.inl rfl, Or.inl rfl⟩
    · exact ⟨Or.inr h, Or.inr h⟩

end View

/-! ### Projectors -/

namespace Projector

/-- Where a view shows the point that another view shows at `s`. -/
theorem map_unmap_fit (box : Box Rat) (viewport : Viewport Rat) (padding : Rat) {v : View Rat}
    (hv : v.zoom ≠ 0) (w : View Rat) (s : Point Rat) :
    (fit box viewport w padding).map ((fit box viewport v padding).unmap s) =
      ⟨viewport.width / 2 + w.pan.x + (s.x - viewport.width / 2 - v.pan.x) * (w.zoom / v.zoom),
        viewport.height / 2 + w.pan.y +
          (s.y - viewport.height / 2 - v.pan.y) * (w.zoom / v.zoom)⟩ := by
  have hbase : (fit box viewport View.home padding).baseScale ≠ 0 :=
    (baseScale_fit_pos box viewport View.home padding).ne'
  simp only [map_rat, unmap_rat, fit_eq box viewport w, fit_eq box viewport v]
  generalize (fit box viewport View.home padding).baseScale = base at hbase
  congr 1 <;> field_simp <;> ring

/-- It is shown at `t` by the pan that carries it there. -/
theorem map_unmap_fit_eq_iff (box : Box Rat) (viewport : Viewport Rat) (padding : Rat)
    {v : View Rat} (hv : v.zoom ≠ 0) (w : View Rat) (s t : Point Rat) :
    (fit box viewport w padding).map ((fit box viewport v padding).unmap s) = t ↔
      w.pan = v.carriedPan ⟨s.x - viewport.width / 2, s.y - viewport.height / 2⟩
        ⟨t.x - viewport.width / 2, t.y - viewport.height / 2⟩ w.zoom := by
  have coordinate (a b c d : Rat) : a + b + c = d ↔ b = d - a - c := by
    constructor <;> intro h <;> linarith
  obtain ⟨zoom, panX, panY⟩ := w
  obtain ⟨tx, ty⟩ := t
  rw [map_unmap_fit box viewport padding hv]
  unfold View.carriedPan
  rw [Point.mk.injEq, Point.mk.injEq, coordinate, coordinate]

end Projector

/-! ### Gestures -/

/-- What can happen while the pointer is down. -/
inductive DragStep where
  | move (point : Point Rat)
  /-- The wheel turns where the pointer is. -/
  | wheel (delta : Rat)
deriving Repr, Inhabited

/-- A renderer with the latest position of the pointer. -/
structure Gesture where
  renderer : Renderer Rat
  pointer : Point Rat

namespace Gesture

/-- The pointer goes down. -/
def grab (r : Renderer Rat) (start : Point Rat) : Gesture := ⟨(r.pointerDown start).1, start⟩

def perform (g : Gesture) : DragStep → Gesture
  | .move point => ⟨(g.renderer.pointerMove point).1, point⟩
  | .wheel delta => ⟨(g.renderer.wheel g.pointer delta).1, g.pointer⟩

/-- The gesture after a list of steps. -/
def run (g : Gesture) (steps : List DragStep) : Gesture := steps.foldl perform g

/-- A point of the model is shown where the pointer is. -/
def Holds (g : Gesture) (m : Point Rat) : Prop :=
  ∃ q, g.renderer.state.projector? = some q ∧ q.map m = g.pointer

/-- The gesture that began with the renderer `r`, when another view is shown. -/
def showing (r : Renderer Rat) (start : Point Rat) (w : View Rat) (pointer : Point Rat) :
    Gesture :=
  ⟨{ r.withView w with drag := some ⟨start.x - r.state.view.pan.x, start.y - r.state.view.pan.y⟩ },
    pointer⟩

variable {r : Renderer Rat} {start pointer : Point Rat} {w : View Rat} {q : Projector Rat}

theorem run_concat (g : Gesture) (steps : List DragStep) (step : DragStep) :
    g.run (steps ++ [step]) = (g.run steps).perform step := by
  unfold run
  rw [List.foldl_append]
  rfl

theorem grab_eq (r : Renderer Rat) (start : Point Rat) :
    grab r start = showing r start r.state.view start := rfl

/-- A move keeps the zoom factor and sets the pan that belongs to the view at the beginning. -/
theorem perform_move (r : Renderer Rat) (start : Point Rat) (w : View Rat)
    (pointer point : Point Rat) :
    (showing r start w pointer).perform (.move point) =
      showing r start ⟨View.clampZoom w.zoom, ⟨point.x - (start.x - r.state.view.pan.x),
        point.y - (start.y - r.state.view.pan.y)⟩⟩ point := by
  simp only [perform, showing, Renderer.pointerMove, Renderer.change, Preview.setPan,
    Preview.setView_fst]
  rfl

theorem perform_wheel (r : Renderer Rat) (start : Point Rat) (w : View Rat) (pointer : Point Rat)
    (delta : Rat) :
    (showing r start w pointer).perform (.wheel delta) = showing r start w pointer ∨
      ∃ factor, (showing r start w pointer).perform (.wheel delta) =
        showing r start (w.zoomedAt (r.state.fromMiddle pointer) factor) pointer := by
  simp only [perform, Renderer.wheel_fst]
  cases WheelDirection.ofDelta? delta with
  | none => exact Or.inl rfl
  | some direction =>
      refine Or.inr ⟨direction.factor, ?_⟩
      simp only [Option.map_some, Option.getD_some, Renderer.change_fst, showing,
        Preview.zoomAt_fst]
      rfl

/-- While the pointer is down nothing changes but the view. -/
theorem exists_run_eq (hzoom : r.state.view.zoom ≠ 0) (start : Point Rat) (steps : List DragStep) :
    ∃ w pointer, (grab r start).run steps = showing r start w pointer ∧ w.zoom ≠ 0 := by
  induction steps using List.reverseRecOn with
  | nil => exact ⟨r.state.view, start, rfl, hzoom⟩
  | append_singleton steps step ih =>
      obtain ⟨w, pointer, hrun, hw⟩ := ih
      rw [run_concat, hrun]
      cases step with
      | move point => exact ⟨_, _, perform_move r start w pointer point, View.clampZoom_ne_zero _⟩
      | wheel delta =>
          rcases perform_wheel r start w pointer delta with hsame | ⟨factor, hstep⟩
          · exact ⟨w, pointer, hsame, hw⟩
          · refine ⟨_, _, hstep, ?_⟩
            rw [View.zoom_zoomedAt]
            exact View.clampZoom_ne_zero _

/-- The grabbed point is held if the pan is the one that carries it to the pointer. -/
theorem holds_showing_iff (hq : r.state.projector? = some q) (hzoom : r.state.view.zoom ≠ 0) :
    (showing r start w pointer).Holds (q.unmap start) ↔
      w.pan = r.state.view.carriedPan (r.state.fromMiddle start) (r.state.fromMiddle pointer)
        w.zoom := by
  obtain ⟨box, hbox, rfl⟩ := Option.map_eq_some_iff.mp hq
  have hprojector : (showing r start w pointer).renderer.state.projector? =
      some (Projector.fit box r.state.viewport w r.state.padding) :=
    Option.map_eq_some_iff.mpr ⟨box, hbox, rfl⟩
  have hmap := Projector.map_unmap_fit_eq_iff box r.state.viewport r.state.padding hzoom w start
    pointer
  constructor
  · rintro ⟨q', hq', hheld⟩
    obtain rfl := Option.some.inj (hprojector.symm.trans hq')
    exact hmap.mp hheld
  · exact fun hpan => ⟨_, hprojector, hmap.mpr hpan⟩

theorem holds_grab (hq : r.state.projector? = some q) (hzoom : r.state.view.zoom ≠ 0)
    (start : Point Rat) : (grab r start).Holds (q.unmap start) := by
  rw [grab_eq, holds_showing_iff hq hzoom]
  unfold View.carriedPan
  rw [div_self hzoom, mul_one, mul_one, sub_sub_cancel, sub_sub_cancel]

/-- The wheel does not let go of the grabbed point. -/
theorem Holds.wheel {before : List DragStep} (hq : r.state.projector? = some q)
    (hzoom : r.state.view.zoom ≠ 0) (h : ((grab r start).run before).Holds (q.unmap start))
    (delta : Rat) : ((grab r start).run (before ++ [.wheel delta])).Holds (q.unmap start) := by
  obtain ⟨w, pointer, hrun, hw⟩ := exists_run_eq hzoom start before
  rw [hrun, holds_showing_iff hq hzoom] at h
  rw [run_concat, hrun]
  rcases perform_wheel r start w pointer delta with hsame | ⟨factor, hstep⟩
  · rw [hsame]
    exact (holds_showing_iff hq hzoom).mpr h
  · rw [hstep]
    exact (holds_showing_iff hq hzoom).mpr (View.pan_zoomedAt hw h factor)

/-- A move holds it if nothing slips at the zoom factor that there is. -/
theorem holds_move_iff (hq : r.state.projector? = some q) (hzoom : r.state.view.zoom ≠ 0)
    (start : Point Rat) (before : List DragStep) (point : Point Rat) :
    let g := (grab r start).run (before ++ [.move point])
    g.Holds (q.unmap start) ↔
      r.state.view.pan = r.state.fromMiddle start ∨
        g.renderer.state.view.zoom = r.state.view.zoom := by
  intro g
  obtain ⟨w, pointer, hrun, _⟩ := exists_run_eq hzoom start before
  have hg : g = _ := (run_concat _ before (.move point)).trans
    (hrun ▸ perform_move r start w pointer point)
  have hmoved := View.moved_eq_carriedPan_iff r.state.view (r.state.fromMiddle start)
    (r.state.fromMiddle point) (View.clampZoom w.zoom)
  have hmiddle (a b c d : Rat) : a - b - (c - b - d) = a - (c - d) := by ring
  simp only [Preview.fromMiddle, hmiddle] at hmoved
  rw [hg, holds_showing_iff hq hzoom, ← View.slip_eq_zero_iff hzoom]
  exact hmoved

/-- **What is grabbed stays under the pointer as long as no move follows a change of the zoom
factor.**  For every sequence of moves and turns of the wheel while the pointer is down, the point
of the model on which the pointer went down is shown under the pointer after each of them, if and
only if every move is made at the zoom factor of the beginning, or the pointer went down where the
pan puts the middle of the drawing. -/
theorem holds_run_iff (hq : r.state.projector? = some q) (hzoom : r.state.view.zoom ≠ 0)
    (start : Point Rat) (steps : List DragStep) :
    (∀ before, before <+: steps → ((grab r start).run before).Holds (q.unmap start)) ↔
      r.state.view.pan = r.state.fromMiddle start ∨
        ∀ before point, before ++ [.move point] <+: steps →
          ((grab r start).run (before ++ [.move point])).renderer.state.view.zoom =
            r.state.view.zoom := by
  constructor
  · intro hholds
    by_cases hmiddle : r.state.view.pan = r.state.fromMiddle start
    · exact Or.inl hmiddle
    · refine Or.inr fun before point hmove => ?_
      have hafter := (holds_move_iff hq hzoom start before point).mp (hholds _ hmove)
      exact hafter.resolve_left hmiddle
  · -- By induction on the steps from the end, since prefixes grow there.
    intro hcondition before
    induction before using List.reverseRecOn with
    | nil => exact fun _ => holds_grab hq hzoom start
    | append_singleton before step ih =>
        intro hsteps
        have hbefore := ih ((List.prefix_append before [step]).trans hsteps)
        cases step with
        | wheel delta => exact hbefore.wheel hq hzoom delta
        | move point =>
            exact (holds_move_iff hq hzoom start before point).mpr
              (hcondition.imp_right fun hmoves => hmoves before point hsteps)

/-- A move and two turns of the wheel. -/
theorem holds_run_move_wheel :
    let r := Renderer.sheetMoved
    let q := Projector.fit (Sheet.bounds ⟨210, 297⟩) r.state.viewport r.state.view r.state.padding
    ∀ before, before <+: [.move ⟨640, 100⟩, .wheel (-1), .wheel 1] →
      ((grab r ⟨610, 120⟩).run before).Holds (q.unmap ⟨610, 120⟩) := by
  intro r q
  have hq : r.state.projector? = some q := rfl
  have hzoom : r.state.view.zoom ≠ 0 := by decide +kernel
  refine (holds_run_iff hq hzoom ⟨610, 120⟩ _).mpr (Or.inr ?_)
  rintro before point ⟨rest, hrest⟩
  cases before with
  | nil =>
      obtain ⟨rfl, _⟩ := DragStep.move.inj (List.cons.inj hrest).1
      decide +kernel
  | cons step before =>
      have hmem : .move point ∈ [DragStep.wheel (-1), .wheel 1] := by
        rw [← (List.cons.inj hrest).2]
        simp
      simp at hmem

/-- The wheel turns while the pointer is down, and a move that goes nowhere makes the drawing
jump. -/
theorem slips_after_wheel :
    let r := Renderer.sheetMoved
    let q := Projector.fit (Sheet.bounds ⟨210, 297⟩) r.state.viewport r.state.view r.state.padding
    r.state.projector? = some q ∧
      ((grab r ⟨610, 120⟩).run [.wheel (-1)]).Holds (q.unmap ⟨610, 120⟩) ∧
      ¬ ((grab r ⟨610, 120⟩).run [.wheel (-1), .move ⟨610, 120⟩]).Holds (q.unmap ⟨610, 120⟩) := by
  intro r q
  have hq : r.state.projector? = some q := rfl
  have hzoom : r.state.view.zoom ≠ 0 := by decide +kernel
  have hgrab : ((grab r ⟨610, 120⟩).run []).Holds (q.unmap ⟨610, 120⟩) := holds_grab hq hzoom _
  refine ⟨hq, hgrab.wheel hq hzoom (-1), fun hheld => ?_⟩
  rcases (holds_move_iff hq hzoom _ [.wheel (-1)] _).mp hheld with hpan | hsame
  · exact absurd (congrArg Point.x hpan) (by decide +kernel)
  · exact absurd hsame (by decide +kernel)

end Gesture
end PenPlotter
