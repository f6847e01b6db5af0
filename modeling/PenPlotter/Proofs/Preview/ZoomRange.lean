import PenPlotter.Proofs.Double.Order
import PenPlotter.Proofs.Preview.Observers

/-! # The range of the zoom

The zoom divides screen coordinates, so it must never leave its range.  `View.Clamped` says of a
view that its zoom is finite and in the range.  The views that are made with `View.new` are
clamped, zooming makes clamped views of whatever the factor is (`clamped_zoomedAt`), and so the
view of a preview stays clamped whatever is done to it (`clamped_perform`).

A step of zoom that the range absorbs changes nothing at all (`perform_of_absorbed`).  It is told
only to observers of a pan that is no number, since such a pan differs from itself. -/

namespace PenPlotter

namespace View

/-- The zoom of a view is finite and in the range. -/
structure Clamped (v : View Float) : Prop where
  finite : v.zoom.isFinite = true
  atLeast : (0.25 : Float) ≤ v.zoom
  atMost : v.zoom ≤ 4.0

theorem mem_clampZoom (zoom : Float) :
    (clampZoom zoom).isFinite = true ∧ (0.25 : Float) ≤ clampZoom zoom ∧ clampZoom zoom ≤ 4.0 := by
  unfold clampZoom
  split
  case isTrue hfinite =>
    exact Double.mem_clamp hfinite (by decide) (by decide) (by decide)
  case isFalse => decide

theorem clamped_new (zoom : Float) (pan : Point Float) : (View.new zoom pan).Clamped :=
  ⟨(mem_clampZoom zoom).1, (mem_clampZoom zoom).2.1, (mem_clampZoom zoom).2.2⟩

theorem clamped_home : (View.home : View Float).Clamped :=
  ⟨by decide, by decide, by decide⟩

theorem clamped_zoomedAt {v : View Float} (hv : v.Clamped) (cursor : Point Float)
    (factor : Float) : (v.zoomedAt cursor factor).Clamped := by
  unfold zoomedAt
  dsimp only
  split
  case isTrue => exact hv
  case isFalse => exact clamped_new (v.zoom * factor) _

theorem zoomedAt_of_clampZoom_beq {v : View Float} {factor : Float}
    (h : (clampZoom (v.zoom * factor) == v.zoom) = true) (cursor : Point Float) :
    v.zoomedAt cursor factor = v := if_pos h

/-- A view whose zoom and pan are numbers equals itself. -/
theorem Clamped.beq_self {v : View Float} (hv : v.Clamped) (hx : v.pan.x.isNaN = false)
    (hy : v.pan.y.isNaN = false) : (v == v) = true := by
  show (v.zoom == v.zoom && (v.pan.x == v.pan.x && v.pan.y == v.pan.y)) = true
  rw [Double.beq_self (Double.isNaN_of_isFinite hv.finite), Double.beq_self hx, Double.beq_self hy]
  rfl

end View

namespace PlotAction

/-- A view that is set was made with `View.new`; all other actions are as they are. -/
def WellMade : PlotAction Float → Prop
  | .setView view => ∃ zoom pan, view = View.new zoom pan
  | _ => True

def zoomFactor? : PlotAction Float → Option Float
  | .zoomAt _ factor => some factor
  | .zoomIn => some View.zoomInFactor
  | .zoomOut => some View.zoomOutFactor
  | .wheel _ delta => (WheelDirection.ofDelta? delta).map WheelDirection.factor
  | _ => none

end PlotAction

namespace Preview

/-- A preview that is made new, set up and worked on before it is rendered. -/
inductive Built : Preview Float → Prop
  | new (viewport : Viewport Float) : Built (Preview.new viewport)
  | withPadding {p : Preview Float} (hp : Built p) (padding : Float) : Built (p.withPadding padding)
  | withObservers {p : Preview Float} (hp : Built p) : Built p.withObservers
  | perform {p : Preview Float} (hp : Built p) {a : PlotAction Float} (ha : a.WellMade) :
      Built ((Renderer.new p).perform a).1.state

variable {p : Preview Float}

theorem setView_self (p : Preview Float) : (p.setView p.view).1 = p := by
  unfold setView
  split <;> rfl

theorem setView_of_beq (h : (p.view == p.view) = true) : p.setView p.view = (p, none) := if_pos h

end Preview

namespace Renderer

variable {r : Renderer Float} {a : PlotAction Float} {factor : Float}

theorem clamped_perform (hr : r.state.view.Clamped) (ha : a.WellMade) :
    (r.perform a).1.state.view.Clamped := by
  have hstep := r.viewStep_perform a
  generalize (r.perform a).1.state.view = view at hstep ⊢
  cases hstep with
  | kept => exact hr
  | set view =>
      obtain ⟨zoom, pan, rfl⟩ := ha
      exact View.clamped_new zoom pan
  | reset => exact View.clamped_home
  | panned _ pan => exact View.clamped_new _ pan
  | zoomed _ cursor factor => exact View.clamped_zoomedAt hr cursor factor

theorem clamped_run (hr : r.state.view.Clamped) {actions : List (PlotAction Float)}
    (hactions : ∀ a ∈ actions, a.WellMade) : (r.run actions).1.state.view.Clamped := by
  induction actions using List.reverseRecOn with
  | nil => exact hr
  | append_singleton actions a ih =>
      rw [run_concat]
      refine clamped_perform (ih fun b hb => hactions b (List.mem_append_left _ hb)) ?_
      exact hactions a (List.mem_append_right _ (List.mem_singleton_self a))

theorem clamped_of_built {p : Preview Float} (hp : p.Built) : p.view.Clamped := by
  induction hp with
  | new viewport => exact View.clamped_home
  | withPadding hp padding ih => exact ih
  | withObservers hp ih => exact ih
  | perform hp ha ih => exact clamped_perform (r := Renderer.new _) ih ha

theorem perform_of_zoomFactor (h : a.zoomFactor? = some factor) (r : Renderer Float) :
    ∃ point, r.perform a = ({ r with state := (r.state.zoomAt point factor).1 },
      (r.state.zoomAt point factor).2) := by
  cases a with
  | zoomAt point f =>
      obtain rfl : f = factor := Option.some.inj h
      exact ⟨point, rfl⟩
  | zoomIn =>
      obtain rfl : View.zoomInFactor = factor := Option.some.inj h
      exact ⟨r.state.viewport.center, rfl⟩
  | zoomOut =>
      obtain rfl : View.zoomOutFactor = factor := Option.some.inj h
      exact ⟨r.state.viewport.center, rfl⟩
  | wheel point delta =>
      obtain ⟨direction, hdirection, rfl⟩ := Option.map_eq_some_iff.mp h
      refine ⟨point, ?_⟩
      simp only [perform, wheel, hdirection]
      rfl
  | _ => cases h

/-- A step of zoom that the range absorbs sets the view that is shown. -/
theorem perform_of_absorbed (ha : a.zoomFactor? = some factor)
    (h : (View.clampZoom (r.state.view.zoom * factor) == r.state.view.zoom) = true) :
    r.perform a = ({ r with state := (r.state.setView r.state.view).1 },
      (r.state.setView r.state.view).2) := by
  obtain ⟨point, hperform⟩ := perform_of_zoomFactor ha r
  have hview : r.state.zoomAt point factor = r.state.setView r.state.view :=
    congrArg r.state.setView (View.zoomedAt_of_clampZoom_beq h _)
  rw [hperform, hview]

/-- **The zoom stays in its range.**  However a preview was built, in every style and after every
sequence of actions, with whatever doubles, the zoom is finite and between 0.25 and 4.  A step of
zoom whose factor the range absorbs then leaves everything as it is, and nothing is told of it
unless the pan is no number. -/
theorem zoom_clamped_run {p : Preview Float} (hp : p.Built) (style : RenderStyle Float)
    {actions : List (PlotAction Float)} (hactions : ∀ a ∈ actions, a.WellMade) :
    let r' := ({ Renderer.new p with style : Renderer Float }.run actions).1
    let view := r'.state.view
    (view.zoom.isFinite = true ∧ (0.25 : Float) ≤ view.zoom ∧ view.zoom ≤ 4.0) ∧
    ∀ a factor, PlotAction.zoomFactor? a = some factor →
      (View.clampZoom (view.zoom * factor) == view.zoom) = true →
      (r'.perform a).1 = r' ∧
        (view.pan.x.isNaN = false → view.pan.y.isNaN = false → (r'.perform a).2 = none) := by
  intro r' view
  have hview : view.Clamped := clamped_run (r := { Renderer.new p with style })
    (clamped_of_built hp) hactions
  refine ⟨⟨hview.finite, hview.atLeast, hview.atMost⟩, ?_⟩
  intro a factor ha habsorbed
  rw [perform_of_absorbed (r := r') ha habsorbed]
  constructor
  · show { r' with state := (r'.state.setView r'.state.view).1 } = r'
    rw [Preview.setView_self]
  · intro hx hy
    show (r'.state.setView r'.state.view).2 = none
    rw [Preview.setView_of_beq (hview.beq_self hx hy)]

/-- A view without a zoom, a factor beyond all bounds, and then one more step in. -/
theorem zoom_clamped_run_limit :
    let p : Preview Float := (Preview.new ⟨800, 600⟩).withObservers
    let actions : List (PlotAction Float) :=
      [.setView (View.new (0.0 / 0.0) ⟨30, -20⟩), .zoomAt ⟨600, 100⟩ 1e300]
    let r' := ((Renderer.new p).run actions).1
    p.Built ∧ (∀ a ∈ actions, a.WellMade) ∧ r'.state.view.zoom.isFinite = true ∧
      r'.state.shownView = (4.0, -480, 520) ∧
      (r'.perform (.wheel ⟨0, 0⟩ (-1))).1 = r' ∧ (r'.perform (.wheel ⟨0, 0⟩ (-1))).2 = none := by
  intro p actions r'
  have hp : p.Built := .withObservers (.new _)
  have hactions : ∀ a ∈ actions, a.WellMade := by
    rw [List.forall_mem_cons, List.forall_mem_singleton]
    exact ⟨⟨_, _, rfl⟩, trivial⟩
  obtain ⟨⟨hfinite, -, -⟩, habsorbed⟩ := zoom_clamped_run hp RenderStyle.standard hactions
  have hstep := habsorbed (.wheel ⟨0, 0⟩ (-1)) View.zoomInFactor (by decide +kernel)
    (by decide +kernel)
  exact ⟨hp, hactions, hfinite, by decide +kernel, hstep.1,
    hstep.2 (by decide +kernel) (by decide +kernel)⟩

end Renderer
end PenPlotter
