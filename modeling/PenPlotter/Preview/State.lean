import PenPlotter.Event.Basic
import PenPlotter.Paper
import PenPlotter.Toolpath.Cache
import PenPlotter.View.Projector

/-! # The state of the preview

A preview shows a program on a sheet of paper through a view.  Each change gives the new state
together with the event that observers are told; a change to an equal value is no change.
A preview that is not observed tells nothing. -/

namespace PenPlotter

/-- What a preview shows and how. -/
structure Preview (α : Type) where
  cache : ToolpathCache α
  paper : Option (Paper α)
  view : View α
  viewport : Viewport α
  padding : α
  /-- Whether events are told to anyone. -/
  observed : Bool
deriving Repr, Inhabited

namespace Preview

variable {α : Type} [Scalar α]

/-- The padding of a canvas in pixels, when none is given. -/
def defaultPadding : α := 20.0

/-- A preview without program and paper. -/
def new (viewport : Viewport α) : Preview α :=
  ⟨.empty, none, View.home, viewport, defaultPadding, false⟩

/-- Sets the padding; a negative one counts as zero. -/
def withPadding (p : Preview α) (padding : α) : Preview α :=
  { p with padding := Scalar.max padding 0.0 }

/-- Makes the events of the preview known. -/
def withObservers (p : Preview α) : Preview α := { p with observed := true }

/-- The event to tell after a change. -/
def tell (p : Preview α) (e : PreviewEvent α) : Option (PreviewEvent α) :=
  if p.observed then some e else none

/-- A changed state with the event that tells of its view. -/
def tellView (p : Preview α) : Preview α × Option (PreviewEvent α) :=
  (p, p.tell (.viewChanged p.view.zoom p.view.pan.x p.view.pan.y))

def toolpath (p : Preview α) : Toolpath α := p.cache.toolpath

/-- Shows another program; tells whether it had to be read. -/
def setSource (p : Preview α) (source : String) :
    Preview α × Option (PreviewEvent α) × Bool :=
  let (cache, changed) := p.cache.update source
  let p' := { p with cache }
  if changed then (p', p'.tell (.sourceChanged cache.toolpath.size), true) else (p, none, false)

/-- Shows another sheet of paper, or none. -/
def setPaper (p : Preview α) (paper : Option (Paper α)) : Preview α × Option (PreviewEvent α) :=
  if p.paper == paper then (p, none)
  else
    let p' := { p with paper }
    (p', p'.tell (.paperChanged (paper.map (·.name))))

/-- Shows through another view. -/
def setView (p : Preview α) (view : View α) : Preview α × Option (PreviewEvent α) :=
  if p.view == view then (p, none) else { p with view }.tellView

/-- Moves the drawing; the zoom is kept. -/
def setPan (p : Preview α) (pan : Point α) : Preview α × Option (PreviewEvent α) :=
  p.setView (View.new p.view.zoom pan)

/-- Goes back to the view without zoom and pan. -/
def resetView (p : Preview α) : Preview α × Option (PreviewEvent α) :=
  { p with view := View.home }.tellView

/-- Zooms so that the drawing stays in place at a point of the screen. -/
def zoomAt (p : Preview α) (point : Point α) (factor : α) : Preview α × Option (PreviewEvent α) :=
  let center := p.viewport.center
  p.setView (p.view.zoomedAt ⟨point.x - center.x, point.y - center.y⟩ factor)

/-- Zooms one step in at the middle of the screen. -/
def zoomIn (p : Preview α) : Preview α × Option (PreviewEvent α) :=
  p.zoomAt p.viewport.center View.zoomInFactor

/-- Zooms one step out at the middle of the screen. -/
def zoomOut (p : Preview α) : Preview α × Option (PreviewEvent α) :=
  p.zoomAt p.viewport.center View.zoomOutFactor

/-- Changes the size of the screen. -/
def resize (p : Preview α) (viewport : Viewport α) : Preview α × Option (PreviewEvent α) :=
  if p.viewport == viewport then (p, none)
  else
    let p' := { p with viewport }
    (p', p'.tell (.viewportResized viewport.width viewport.height))

/-- The map from model to screen, if there is anything to show. -/
def projector? (p : Preview α) : Option (Projector α) :=
  Projector.new? p.toolpath.bounds (p.paper.map fun q => ⟨q.width, q.height⟩) p.viewport p.view
    p.padding

end Preview

end PenPlotter
