import PenPlotter.Scalar

/-! # Following the end of the log

The console follows new entries while the operator looks at the end of the log, and stays where
it is when the operator has scrolled away from it. -/

namespace PenPlotter

/-- Whether the console moves to the end of the log. -/
inductive ScrollAction where
  | follow
  | stay
deriving Repr, DecidableEq, Inhabited

/-- How far the end of the log is away, in pixels, and up to where it is followed. -/
structure Scroll where
  threshold : Float
  distance : Float
deriving Repr, Inhabited

namespace Scroll

/-- At the end of the log. -/
def new (threshold : Float) : Scroll := ⟨threshold, 0.0⟩

def update (s : Scroll) (top height content : Float) : Scroll :=
  { s with distance := Scalar.max (content - top - height) 0.0 }

/-- Whether the end of the log is near enough to be followed. -/
def isNear (s : Scroll) : Bool := decide (s.distance ≤ s.threshold)

/-- What to do about a new entry. -/
def action (s : Scroll) (forced : Bool) : ScrollAction :=
  if forced || s.isNear then .follow else .stay

/-- Moves to the end of the log. -/
def pin (s : Scroll) : Scroll := { s with distance := 0.0 }

end Scroll

end PenPlotter
