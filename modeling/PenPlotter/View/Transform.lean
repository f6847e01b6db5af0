import PenPlotter.Plane.Point

/-! # Views

A view is a zoom factor and a pan, the displacement of the drawing on the screen.  Zooming at a
point keeps what is under that point in place.  Every view made by `View.new` or by zooming has
a zoom between `View.minZoom` and `View.maxZoom`. -/

namespace PenPlotter

/-- Zoom factor and pan of a preview; the pan is in pixels from the middle of the screen. -/
structure View (α : Type) where
  zoom : α
  pan : Point α
deriving Repr, Inhabited

namespace View

variable {α : Type} [Scalar α]

def minZoom : α := 0.25

def maxZoom : α := 4.0

def zoomInFactor : α := 1.05

def zoomOutFactor : α := 0.95

/-- Moves a zoom factor into the allowed range; one that is not finite becomes 1. -/
def clampZoom (zoom : α) : α :=
  if Scalar.finite zoom then Scalar.clamp zoom minZoom maxZoom else 1.0

/-- Views are equal when zoom and pan are numerically equal. -/
instance : BEq (View α) where
  beq v w := v.zoom == w.zoom && v.pan == w.pan

/-- The view without zoom and pan. -/
def home : View α := ⟨1.0, Point.origin⟩

/-- A view with the zoom factor moved into the allowed range. -/
def new (zoom : α) (pan : Point α) : View α := ⟨clampZoom zoom, pan⟩

def setZoom (v : View α) (zoom : α) : View α := { v with zoom := clampZoom zoom }

/-- Zooms by a factor so that the point under `cursor` stays where it is; `cursor` is relative to
the middle of the screen.  A step that the range of factors absorbs changes nothing. -/
def zoomedAt (v : View α) (cursor : Point α) (factor : α) : View α :=
  let zoom := clampZoom (v.zoom * factor)
  if zoom == v.zoom then v
  else
    let anchorX := (cursor.x - v.pan.x) / v.zoom
    let anchorY := (cursor.y - v.pan.y) / v.zoom
    ⟨zoom, ⟨cursor.x - anchorX * zoom, cursor.y - anchorY * zoom⟩⟩

end View

end PenPlotter
