import PenPlotter.Plane.Box

/-! # Toolpaths

A toolpath is the list of straight moves that a program makes, with the extent of their end
points.  `Toolpath.stats` counts and measures the moves of each kind. -/

namespace PenPlotter

/-- A straight move of the pen. -/
structure Segment (α : Type) where
  start : Point α
  stop : Point α
  penDown : Bool
deriving Repr, Inhabited

def Segment.length (s : Segment Float) : Float := s.start.distance s.stop

/-- The moves of a program in order, and their extent. -/
structure Toolpath (α : Type) where
  segments : List (Segment α)
  bounds : Option (Box α)
deriving Repr, Inhabited

/-- How many moves of each kind a toolpath has, and how long they are together. -/
structure ToolpathStats where
  drawMoves : Nat
  travelMoves : Nat
  drawDistance : Float
  travelDistance : Float
deriving Repr, Inhabited

/-- Counts one more move. -/
def ToolpathStats.add (t : ToolpathStats) (s : Segment Float) : ToolpathStats :=
  if s.penDown then
    { t with drawMoves := t.drawMoves + 1, drawDistance := t.drawDistance + s.length }
  else
    { t with travelMoves := t.travelMoves + 1, travelDistance := t.travelDistance + s.length }

namespace Toolpath

variable {α : Type}

/-- The toolpath without moves. -/
def empty : Toolpath α := ⟨[], none⟩

def size (t : Toolpath α) : Nat := t.segments.length

def isEmpty (t : Toolpath α) : Bool := t.segments.isEmpty

/-- Widens an extent, if there is one yet, by both ends of a move. -/
def extend [Scalar α] (b : Option (Box α)) (s : Segment α) : Option (Box α) :=
  some (((b.getD (Box.single s.start)).insert s.start).insert s.stop)

/-- The toolpath of the given moves. -/
def ofSegments [Scalar α] (segments : List (Segment α)) : Toolpath α :=
  ⟨segments, segments.foldl extend none⟩

/-- Counts and lengths of the moves, summed in their order. -/
def stats (t : Toolpath Float) : ToolpathStats :=
  t.segments.foldl ToolpathStats.add ⟨0, 0, 0.0, 0.0⟩

section lemmas

variable [Scalar α]

@[simp] theorem segments_ofSegments (l : List (Segment α)) : (ofSegments l).segments = l := rfl

end lemmas

end Toolpath

end PenPlotter
