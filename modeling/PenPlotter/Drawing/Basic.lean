import PenPlotter.Plane.Point

/-! # Drawing operations

A picture is made by clearing a surface and drawing lines and rectangles on it.  `Drawing.Op` is
one such operation and `Surface` is anything that carries them out. -/

namespace PenPlotter.Drawing

/-- An opaque colour. -/
structure Color where
  red : UInt8
  green : UInt8
  blue : UInt8
deriving Repr, DecidableEq, Inhabited

/-- Two lower-case hexadecimal digits. -/
def hexPair (b : UInt8) : String :=
  String.ofList [Nat.digitChar (b.toNat / 16), Nat.digitChar (b.toNat % 16)]

/-- The colour as `#rrggbb`. -/
def Color.text (c : Color) : String := "#" ++ hexPair c.red ++ hexPair c.green ++ hexPair c.blue

/-- How a line is drawn; a dash is a drawn and a skipped length. -/
structure Stroke (α : Type) where
  color : Color
  width : α
  opacity : α
  dash : Option (α × α)
deriving Repr, Inhabited

/-- Whether the line is broken into dashes. -/
def Stroke.isDashed {α : Type} (s : Stroke α) : Bool := s.dash.isSome

/-- One operation on a surface. -/
inductive Op (α : Type) where
  /-- Forgets all that was drawn and fills the surface. -/
  | clear (background : Color)
  | line (start stop : Point α) (stroke : Stroke α)
  | rect (origin : Point α) (width height : α) (stroke : Stroke α)
deriving Repr, Inhabited

namespace Op

variable {α : Type}

def isLine : Op α → Bool
  | .line .. => true
  | _ => false

/-- Whether the operation draws a rectangle. -/
def isRect : Op α → Bool
  | .rect .. => true
  | _ => false

end Op

/-- Surfaces of type `σ` on which operations with coordinates in `α` are carried out. -/
class Surface (σ : Type) (α : outParam Type) where
  apply : σ → Op α → σ

/-- Carries out a list of operations in order. -/
def drawAll {σ α : Type} [Surface σ α] (s : σ) (ops : List (Op α)) : σ :=
  ops.foldl Surface.apply s

/-- A surface that records the operations since the last clearing. -/
structure DisplayList (α : Type) where
  ops : List (Op α)
deriving Repr, Inhabited

namespace DisplayList

variable {α : Type}

/-- The surface on which nothing was drawn. -/
def empty : DisplayList α := ⟨[]⟩

/-- Records one operation; clearing forgets the earlier ones. -/
def record (d : DisplayList α) : Op α → DisplayList α
  | .clear background => ⟨[.clear background]⟩
  | op => ⟨d.ops ++ [op]⟩

instance : Surface (DisplayList α) α := ⟨record⟩

def lines (d : DisplayList α) : List (Op α) := d.ops.filter Op.isLine

def rects (d : DisplayList α) : List (Op α) := d.ops.filter Op.isRect

end DisplayList

end PenPlotter.Drawing
