import Mathlib.Data.List.Induction
import PenPlotter.Preview.Renderer

/-! # What observers of a preview know

A host draws a preview again when it is told of a change.  `PlotAction` lists what can be done to a
renderer, and `Renderer.run` is the renderer after a list of actions, together with the events that
were told meanwhile.

All actions change the preview in one of few ways (`Preview.Changes`): nothing happens, or one of
program, view, sheet and screen is another one and an event tells which one it is now.  So
observers miss nothing (`Renderer.observers_miss_nothing`): an action of which nothing is told
leaves the picture as it is, and the last event of every kind says how things are. -/

namespace PenPlotter

/-- What can be done to a renderer. -/
inductive PlotAction (α : Type) where
  | setSource (source : String)
  | setPaper (paper : Option (Paper α))
  | setView (view : View α)
  | setPan (pan : Point α)
  | resetView
  | zoomAt (point : Point α) (factor : α)
  | zoomIn
  | zoomOut
  | resize (viewport : Viewport α)
  | pointerDown (point : Point α)
  | pointerMove (point : Point α)
  | pointerUp (point : Point α)
  | pointerLeave
  | wheel (point : Point α) (delta : α)
  | cancelGesture
deriving Repr, Inhabited

namespace PreviewEvent

variable {α : Type}

/-- The zoom factor and the pan that an event tells. -/
def view? : PreviewEvent α → Option (α × α × α)
  | .viewChanged zoom panX panY => some (zoom, panX, panY)
  | _ => none

/-- The number of moves that an event tells. -/
def segmentCount? : PreviewEvent α → Option Nat
  | .sourceChanged segmentCount => some segmentCount
  | _ => none

/-- The name of the sheet, or that there is none, as an event tells it. -/
def paper? : PreviewEvent α → Option (Option String)
  | .paperChanged paper => some paper
  | _ => none

/-- The width and height of the screen that an event tells. -/
def viewport? : PreviewEvent α → Option (α × α)
  | .viewportResized width height => some (width, height)
  | _ => none

/-- What the last one of the events that tell of something tells of it. -/
def latest? {β : Type} (f : PreviewEvent α → Option β) (events : List (PreviewEvent α)) :
    Option β := (events.filterMap f).getLast?

theorem latest?_concat {β : Type} (f : PreviewEvent α → Option β)
    (events : List (PreviewEvent α)) (e : Option (PreviewEvent α)) :
    latest? f (events ++ e.toList) = (e.bind f).or (latest? f events) := by
  cases e with
  | none => simp [latest?]
  | some e => cases h : f e <;> simp [latest?, h]

end PreviewEvent

/-! ### What an action does to the preview -/

namespace Preview

variable {α : Type}

/-- Nothing happens, or one part is changed and the event tells how it is now. -/
inductive Changes (p : Preview α) : Preview α → Option (PreviewEvent α) → Prop
  | silent : Changes p p none
  | source (cache : ToolpathCache α) :
      Changes p { p with cache } (p.tell (.sourceChanged cache.toolpath.size))
  | view (view : View α) :
      Changes p { p with view } (p.tell (.viewChanged view.zoom view.pan.x view.pan.y))
  | paper (paper : Option (Paper α)) :
      Changes p { p with paper } (p.tell (.paperChanged (paper.map (·.name))))
  | viewport (viewport : Viewport α) :
      Changes p { p with viewport } (p.tell (.viewportResized viewport.width viewport.height))

section changes

variable [Scalar α] (p : Preview α)

theorem changes_setSource (source : String) :
    p.Changes (p.setSource source).1 (p.setSource source).2.1 := by
  unfold setSource
  cases p.cache.update source with
  | mk cache changed =>
      cases changed with
      | false => exact .silent
      | true => exact .source cache

theorem changes_setPaper (paper : Option (Paper α)) :
    p.Changes (p.setPaper paper).1 (p.setPaper paper).2 := by
  unfold setPaper
  split
  · exact .silent
  · exact .paper paper

theorem changes_setView (view : View α) : p.Changes (p.setView view).1 (p.setView view).2 := by
  unfold setView
  split
  · exact .silent
  · exact .view view

theorem changes_resetView : p.Changes p.resetView.1 p.resetView.2 := .view View.home

theorem changes_resize (viewport : Viewport α) :
    p.Changes (p.resize viewport).1 (p.resize viewport).2 := by
  unfold resize
  split
  · exact .silent
  · exact .viewport viewport

end changes

variable {p p' : Preview α} {e : Option (PreviewEvent α)}

theorem Changes.observed (h : p.Changes p' e) : p'.observed = p.observed := by
  cases h <;> rfl

/-- A preview that is observed does not change unless an event is told. -/
theorem Changes.eq_of_silent (h : p.Changes p' none) (hp : p.observed = true) : p' = p := by
  generalize he : (none : Option (PreviewEvent α)) = e at h
  cases h with
  | silent => rfl
  | source | view | paper | viewport => simp [tell, hp] at he

/-- What is told of with `f` is what the preview shows by `g`. -/
def Reports {β : Type} (f : PreviewEvent α → Option β) (g : Preview α → β) : Prop :=
  ∀ (p p' : Preview α) (e : Option (PreviewEvent α)), p.Changes p' e → p.observed = true →
    (e.bind f).getD (g p) = g p'

/-- The zoom factor and the pan of a preview. -/
def shownView (p : Preview α) : α × α × α := (p.view.zoom, p.view.pan.x, p.view.pan.y)

def paperName (p : Preview α) : Option String := p.paper.map (·.name)

def screen (p : Preview α) : α × α := (p.viewport.width, p.viewport.height)

theorem reports_view : Reports PreviewEvent.view? (shownView : Preview α → α × α × α) := by
  intro p p' e h hp
  cases h <;> simp [tell, hp, PreviewEvent.view?, shownView]

theorem reports_segmentCount :
    Reports PreviewEvent.segmentCount? (fun p : Preview α => p.toolpath.size) := by
  intro p p' e h hp
  cases h <;> simp [tell, hp, PreviewEvent.segmentCount?, toolpath]

theorem reports_paper : Reports PreviewEvent.paper? (paperName : Preview α → Option String) := by
  intro p p' e h hp
  cases h <;> simp [tell, hp, PreviewEvent.paper?, paperName]

theorem reports_viewport : Reports PreviewEvent.viewport? (screen : Preview α → α × α) := by
  intro p p' e h hp
  cases h <;> simp [tell, hp, PreviewEvent.viewport?, screen]

end Preview

/-! ### Runs of a renderer -/

namespace Renderer

section endDrag

variable {α : Type} (r : Renderer α)

theorem state_endDrag : r.endDrag.1.state = r.state := by
  unfold endDrag
  split <;> rfl

theorem style_endDrag : r.endDrag.1.style = r.style := by
  unfold endDrag
  split <;> rfl

end endDrag

section run

variable {α : Type} [Scalar α]

/-- The renderer after an action, and the event that is told. -/
def perform (r : Renderer α) : PlotAction α → Renderer α × Option (PreviewEvent α)
  | .setSource source =>
    r.change fun p => ((p.setSource source).1, (p.setSource source).2.1)
  | .setPaper paper => r.change (·.setPaper paper)
  | .setView view => r.change (·.setView view)
  | .setPan pan => r.change (·.setPan pan)
  | .resetView => r.change (·.resetView)
  | .zoomAt point factor => r.change (·.zoomAt point factor)
  | .zoomIn => r.change (·.zoomIn)
  | .zoomOut => r.change (·.zoomOut)
  | .resize viewport => r.change (·.resize viewport)
  | .pointerDown point => ((r.pointerDown point).1, none)
  | .pointerMove point => ((r.pointerMove point).1, (r.pointerMove point).2.1)
  | .pointerUp point => ((r.pointerUp point).1, none)
  | .pointerLeave => (r.pointerLeave.1, none)
  | .wheel point delta => ((r.wheel point delta).1, (r.wheel point delta).2.1)
  | .cancelGesture => (r.cancelGesture, none)

/-- The renderer after a list of actions, and the events that were told, in their order. -/
def run (r : Renderer α) (actions : List (PlotAction α)) :
    Renderer α × List (PreviewEvent α) :=
  actions.foldl (fun s a => ((s.1.perform a).1, s.2 ++ (s.1.perform a).2.toList)) (r, [])

variable (r : Renderer α) (actions : List (PlotAction α)) (a : PlotAction α)

theorem run_concat :
    r.run (actions ++ [a]) =
      (((r.run actions).1.perform a).1,
        (r.run actions).2 ++ ((r.run actions).1.perform a).2.toList) := by
  unfold run
  rw [List.foldl_append]
  rfl

/-- An action changes the preview in one of the few ways. -/
theorem changes_perform : r.state.Changes (r.perform a).1.state (r.perform a).2 := by
  cases a with
  | setSource source => exact r.state.changes_setSource source
  | setPaper paper => exact r.state.changes_setPaper paper
  | setView view => exact r.state.changes_setView view
  | setPan pan => exact r.state.changes_setView _
  | resetView => exact r.state.changes_resetView
  | zoomAt point factor => exact r.state.changes_setView _
  | zoomIn => exact r.state.changes_setView _
  | zoomOut => exact r.state.changes_setView _
  | resize viewport => exact r.state.changes_resize viewport
  | pointerDown point => exact .silent
  | pointerMove point =>
      simp only [perform, pointerMove]
      split
      · exact .silent
      · exact r.state.changes_setView _
  | pointerUp point =>
      show r.state.Changes r.endDrag.1.state none
      rw [state_endDrag]
      exact .silent
  | pointerLeave =>
      show r.state.Changes r.endDrag.1.state none
      rw [state_endDrag]
      exact .silent
  | wheel point delta =>
      simp only [perform, wheel]
      split
      · exact .silent
      · exact r.state.changes_setView _
  | cancelGesture => exact .silent

/-- The view after an action on a preview that showed the view `v`: it is kept, or set, or moved,
or zoomed at some point of the screen. -/
inductive ViewStep (v : View α) : PlotAction α → View α → Prop
  | kept (a : PlotAction α) : ViewStep v a v
  | set (w : View α) : ViewStep v (.setView w) w
  | reset : ViewStep v .resetView View.home
  | panned (a : PlotAction α) (pan : Point α) : ViewStep v a (View.new v.zoom pan)
  | zoomed (a : PlotAction α) (cursor : Point α) (factor : α) :
      ViewStep v a (v.zoomedAt cursor factor)

theorem viewStep_setView (p : Preview α) {view : View α} (h : ViewStep p.view a view) :
    ViewStep p.view a (p.setView view).1.view := by
  unfold Preview.setView
  split
  · exact .kept a
  · exact h

/-- The view after an action comes about in one of these ways. -/
theorem viewStep_perform : ViewStep r.state.view a (r.perform a).1.state.view := by
  cases a with
  | setSource source =>
      simp only [perform, change, Preview.setSource]
      split <;> exact .kept _
  | setPaper paper =>
      simp only [perform, change, Preview.setPaper]
      split <;> exact .kept _
  | setView view => exact viewStep_setView _ r.state (.set view)
  | setPan pan => exact viewStep_setView _ r.state (.panned _ pan)
  | resetView => exact .reset
  | zoomAt | zoomIn | zoomOut => exact viewStep_setView _ r.state (.zoomed _ _ _)
  | resize viewport =>
      simp only [perform, change, Preview.resize]
      split <;> exact .kept _
  | pointerDown | cancelGesture => exact .kept _
  | pointerMove point =>
      simp only [perform, pointerMove]
      split
      · exact .kept _
      · exact viewStep_setView _ r.state (.panned _ _)
  | pointerUp | pointerLeave =>
      show ViewStep r.state.view _ r.endDrag.1.state.view
      rw [state_endDrag]
      exact .kept _
  | wheel point delta =>
      simp only [perform, wheel]
      split
      · exact .kept _
      · exact viewStep_setView _ r.state (.zoomed _ _ _)

theorem style_perform : (r.perform a).1.style = r.style := by
  cases a with
  | pointerMove point =>
      simp only [perform, pointerMove]
      split <;> rfl
  | wheel point delta =>
      simp only [perform, wheel]
      split <;> rfl
  | pointerUp point => exact r.style_endDrag
  | pointerLeave => exact r.style_endDrag
  | _ => rfl

variable {r actions a}

theorem observed_run (hr : r.state.observed = true) (actions : List (PlotAction α)) :
    (r.run actions).1.state.observed = true := by
  induction actions using List.reverseRecOn with
  | nil => exact hr
  | append_singleton actions a ih =>
      rw [run_concat]
      exact ((r.run actions).1.changes_perform a).observed.trans ih

theorem operations_congr {r r' : Renderer α} (hstate : r'.state = r.state)
    (hstyle : r'.style = r.style) : r'.operations = r.operations := by
  obtain ⟨state, style, drag⟩ := r
  obtain ⟨state', style', drag'⟩ := r'
  obtain rfl : state' = state := hstate
  obtain rfl : style' = style := hstyle
  rfl

/-- What is reported is known from the last report, and as it was if there was none. -/
theorem getD_latest?_run {β : Type} {f : PreviewEvent α → Option β} {g : Preview α → β}
    (hfg : Preview.Reports f g) (hr : r.state.observed = true) (actions : List (PlotAction α)) :
    (PreviewEvent.latest? f (r.run actions).2).getD (g r.state) = g (r.run actions).1.state := by
  induction actions using List.reverseRecOn with
  | nil => rfl
  | append_singleton actions a ih =>
      have hstep := hfg _ _ _ ((r.run actions).1.changes_perform a) (observed_run hr actions)
      rw [run_concat, PreviewEvent.latest?_concat, ← hstep]
      cases ((r.run actions).1.perform a).2.bind f with
      | none => exact ih
      | some v => rfl

/-- **Observers miss nothing.**  For every renderer of a preview that is observed, after all
sequences of actions: an action of which nothing is told leaves the picture as it was, and view,
number of moves, sheet and screen are those of which the latest event of the kind told, or those of
the beginning if there was no such event. -/
theorem observers_miss_nothing (hr : r.state.observed = true) (actions : List (PlotAction α)) :
    let r' := (r.run actions).1
    let events := (r.run actions).2
    (∀ a, (r'.perform a).2 = none →
      (r'.perform a).1.draw (Drawing.DisplayList.empty : Drawing.DisplayList α) =
        r'.draw Drawing.DisplayList.empty) ∧
    (PreviewEvent.latest? PreviewEvent.view? events).getD r.state.shownView =
      r'.state.shownView ∧
    (PreviewEvent.latest? PreviewEvent.segmentCount? events).getD r.state.toolpath.size =
      r'.state.toolpath.size ∧
    (PreviewEvent.latest? PreviewEvent.viewport? events).getD r.state.screen = r'.state.screen ∧
    (PreviewEvent.latest? PreviewEvent.paper? events).getD r.state.paperName =
      r'.state.paperName := by
  intro r' events
  refine ⟨?_, getD_latest?_run Preview.reports_view hr actions,
    getD_latest?_run Preview.reports_segmentCount hr actions,
    getD_latest?_run Preview.reports_viewport hr actions,
    getD_latest?_run Preview.reports_paper hr actions⟩
  intro a hsilent
  have hchanges := r'.changes_perform a
  rw [hsilent] at hchanges
  have hstate := hchanges.eq_of_silent (observed_run hr actions)
  unfold draw
  rw [operations_congr hstate (r'.style_perform a)]

/-- A step of the wheel is told, and the removal of a sheet that is not there is not. -/
theorem observers_miss_nothing_wheel :
    let r : Renderer Float := Renderer.new (Preview.new ⟨800, 600⟩).withObservers
    let actions : List (PlotAction Float) := [.setSource "G1 X10 Y5", .wheel ⟨600, 100⟩ (-1)]
    let r' := (r.run actions).1
    r.state.observed = true ∧ (r'.perform (.setPaper none)).2.isNone ∧
      (r'.perform (.setPaper none)).1.draw (Drawing.DisplayList.empty : Drawing.DisplayList Float) =
        r'.draw Drawing.DisplayList.empty ∧
      r'.state.shownView = (1.05, -10, 10) ∧ r'.state.toolpath.size = 1 := by
  intro r actions r'
  have hsilent : (r'.perform (.setPaper none)).2.isNone := by decide +kernel
  obtain ⟨hdraw, hview, hsize, -⟩ := observers_miss_nothing (r := r) rfl actions
  refine ⟨rfl, hsilent, hdraw _ (Option.isNone_iff_eq_none.mp hsilent), hview.symm.trans ?_,
    hsize.symm.trans ?_⟩
  · decide +kernel
  · decide +kernel

end run

end Renderer
end PenPlotter
