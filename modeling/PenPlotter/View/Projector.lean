import PenPlotter.Plane.Box
import PenPlotter.View.Transform

/-! # Projection to the screen

A projector maps model space (millimetres, Y up) to the screen (pixels, Y down).  It fits the
extent of the drawing and of the sheet into the padded viewport, multiplies by the zoom, and
displaces by the pan.  `Projector.map` and `Projector.unmap` are the two directions. -/

namespace PenPlotter

/-- The size of the screen area in pixels. -/
structure Viewport (α : Type) where
  width : α
  height : α
deriving Repr, Inhabited

namespace Viewport

variable {α : Type} [Scalar α]

/-- Sizes are equal when both sides are numerically equal. -/
instance : BEq (Viewport α) where
  beq v w := v.width == w.width && v.height == w.height

def center (v : Viewport α) : Point α := ⟨v.width / 2.0, v.height / 2.0⟩

end Viewport

/-- The sides of a sheet that lies with its middle on the origin. -/
structure Sheet (α : Type) where
  width : α
  height : α
deriving Repr, Inhabited

def Sheet.bounds {α : Type} [Scalar α] (s : Sheet α) : Box α := Box.centered s.width s.height

/-- The map from model to screen. -/
structure Projector (α : Type) where
  viewport : Viewport α
  /-- The model point that lies in the middle of the screen when there is no pan. -/
  center : Point α
  /-- Pixels per millimetre at zoom 1. -/
  baseScale : α
  /-- Pixels per millimetre. -/
  scale : α
  pan : Point α
deriving Repr, Inhabited

namespace Projector

variable {α : Type} [Scalar α]

/-- The least extent, in millimetres, to which the screen is fitted. -/
def minSpan : α := 1.0

/-- The extent of drawing and sheet together. -/
def combined (bounds : Option (Box α)) (sheet : Option (Sheet α)) : Option (Box α) :=
  match bounds, sheet with
  | some b, some s => some (b.union s.bounds)
  | some b, none => some b
  | none, some s => some s.bounds
  | none, none => none

/-- The pixels left between the paddings of a side, at least one. -/
def available (side padding : α) : α := Scalar.max (side - 2.0 * padding) 1.0

/-- The projector that fits a box into the viewport. -/
def fit (box : Box α) (viewport : Viewport α) (view : View α) (padding : α) : Projector α :=
  let spanX := Scalar.max box.width minSpan
  let spanY := Scalar.max box.height minSpan
  let base := Scalar.min (available viewport.width padding / spanX)
    (available viewport.height padding / spanY)
  { viewport, center := box.center, baseScale := base, scale := base * view.zoom, pan := view.pan }

/-- The projector of a drawing, a sheet or both; there is none when there is nothing to show. -/
def new? (bounds : Option (Box α)) (sheet : Option (Sheet α)) (viewport : Viewport α)
    (view : View α) (padding : α) : Option (Projector α) :=
  (combined bounds sheet).map fun box => fit box viewport view padding

/-- The screen point of a model point. -/
def map (p : Projector α) (q : Point α) : Point α :=
  ⟨p.viewport.width / 2.0 + p.pan.x + (q.x - p.center.x) * p.scale,
   p.viewport.height / 2.0 + p.pan.y - (q.y - p.center.y) * p.scale⟩

/-- The model point of a screen point. -/
def unmap (p : Projector α) (s : Point α) : Point α :=
  ⟨p.center.x + (s.x - p.viewport.width / 2.0 - p.pan.x) / p.scale,
   p.center.y - (s.y - p.viewport.height / 2.0 - p.pan.y) / p.scale⟩

theorem new?_eq_none_iff (bounds : Option (Box α)) (sheet : Option (Sheet α))
    (viewport : Viewport α) (view : View α) (padding : α) :
    new? bounds sheet viewport view padding = none ↔ bounds = none ∧ sheet = none := by
  cases bounds <;> cases sheet <;> simp [new?, combined]

end Projector

end PenPlotter
