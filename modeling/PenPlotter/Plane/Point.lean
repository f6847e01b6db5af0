import PenPlotter.Scalar

/-! # Points of the plane -/

namespace PenPlotter

/-- A point, or a displacement. -/
structure Point (α : Type) where
  x : α
  y : α
deriving Repr, Inhabited

namespace Point

variable {α : Type}

def origin [Scalar α] : Point α := ⟨0.0, 0.0⟩

/-- Points are equal when both coordinates are numerically equal. -/
instance [BEq α] : BEq (Point α) where
  beq p q := p.x == q.x && p.y == q.y

/-- The straight distance between two points. -/
def distance (p q : Point Float) : Float :=
  let dx := q.x - p.x
  let dy := q.y - p.y
  (dx * dx + dy * dy).sqrt

end Point

end PenPlotter
