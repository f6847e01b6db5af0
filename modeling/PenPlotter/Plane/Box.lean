import PenPlotter.Plane.Point

/-! # Axis-parallel boxes

A `Box` is the extent of a set of points.  `Box.insert` and `Box.union` only ever widen it. -/

namespace PenPlotter

/-- The points with coordinates between the given bounds. -/
structure Box (α : Type) where
  minX : α
  maxX : α
  minY : α
  maxY : α
deriving Repr, Inhabited

namespace Box

variable {α : Type} [Scalar α]

/-- The box that holds one point. -/
def single (p : Point α) : Box α := ⟨p.x, p.x, p.y, p.y⟩

/-- Widens the box by one point. -/
def insert (b : Box α) (p : Point α) : Box α :=
  { minX := Scalar.min b.minX p.x, maxX := Scalar.max b.maxX p.x
    minY := Scalar.min b.minY p.y, maxY := Scalar.max b.maxY p.y }

/-- The smallest box that holds both. -/
def union (a b : Box α) : Box α :=
  { minX := Scalar.min a.minX b.minX, maxX := Scalar.max a.maxX b.maxX
    minY := Scalar.min a.minY b.minY, maxY := Scalar.max a.maxY b.maxY }

def width (b : Box α) : α := b.maxX - b.minX

def height (b : Box α) : α := b.maxY - b.minY

def center (b : Box α) : Point α := ⟨(b.minX + b.maxX) / 2.0, (b.minY + b.maxY) / 2.0⟩

/-- The box of the given size around the origin. -/
def centered (width height : α) : Box α := ⟨-width / 2.0, width / 2.0, -height / 2.0, height / 2.0⟩

end Box

end PenPlotter
