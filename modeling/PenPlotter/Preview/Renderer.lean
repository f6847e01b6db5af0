import PenPlotter.Drawing.Basic
import PenPlotter.Preview.State

/-! # Rendering and pointer gestures

A renderer draws a preview in a style and turns pointer gestures into changes of the view.
Dragging sets the pan to the pointer's position less the offset taken when the pointer went
down, so that it does not depend on the moves in between; the wheel zooms at the pointer. -/

namespace PenPlotter

open Drawing

/-- The colours and strokes of a drawing. -/
structure RenderStyle (α : Type) where
  background : Color
  paper : Stroke α
  draw : Stroke α
  travel : Stroke α
deriving Repr, Inhabited

/-- The usual style: a dashed sheet, solid drawing moves and faint dashed travel moves. -/
def RenderStyle.standard {α : Type} [Scalar α] : RenderStyle α :=
  { background := ⟨0xff, 0xff, 0xff⟩
    paper := ⟨⟨0x9c, 0xa3, 0xaf⟩, 1.0, 0.8, some (6.0, 4.0)⟩
    draw := ⟨⟨0x1f, 0x29, 0x37⟩, 1.5, 0.9, none⟩
    travel := ⟨⟨0x60, 0xa5, 0xfa⟩, 1.0, 0.35, some (4.0, 4.0)⟩ }

/-- Whether a gesture was used. -/
inductive Disposition where
  | consumed
  | ignored
deriving Repr, DecidableEq, Inhabited

/-- The direction of a step of the wheel. -/
inductive WheelDirection where
  | zoomIn
  | zoomOut
deriving Repr, DecidableEq, Inhabited

namespace WheelDirection

variable {α : Type} [Scalar α]

/-- Turning down zooms out, turning up zooms in. -/
def ofDelta? (delta : α) : Option WheelDirection :=
  if Scalar.less 0.0 delta then some .zoomOut
  else if Scalar.less delta 0.0 then some .zoomIn
  else none

def factor : WheelDirection → α
  | .zoomIn => View.zoomInFactor
  | .zoomOut => View.zoomOutFactor

end WheelDirection

/-- A preview with its style; `drag` is the pointer's offset from the pan while it is down. -/
structure Renderer (α : Type) where
  state : Preview α
  style : RenderStyle α
  drag : Option (Point α)
deriving Repr, Inhabited

namespace Renderer

variable {α : Type} [Scalar α]

/-- A renderer in the usual style. -/
def new (state : Preview α) : Renderer α := ⟨state, RenderStyle.standard, none⟩

def isDragging (r : Renderer α) : Bool := r.drag.isSome

/-- The rectangle of a sheet on the screen. -/
def paperOp (r : Renderer α) (projector : Projector α) (paper : Paper α) : Op α :=
  let (halfWidth, halfHeight) := paper.halfExtents
  let topLeft := projector.map ⟨-halfWidth, halfHeight⟩
  let bottomRight := projector.map ⟨halfWidth, -halfHeight⟩
  .rect topLeft (bottomRight.x - topLeft.x) (bottomRight.y - topLeft.y) r.style.paper

/-- The line of a move on the screen. -/
def segmentOp (r : Renderer α) (projector : Projector α) (s : Segment α) : Op α :=
  .line (projector.map s.start) (projector.map s.stop)
    (if s.penDown then r.style.draw else r.style.travel)

/-- The operations of the whole picture: the background, the sheet, then the moves in order. -/
def operations (r : Renderer α) : List (Op α) :=
  .clear r.style.background ::
    match r.state.projector? with
    | none => []
    | some projector =>
      (r.state.paper.map (r.paperOp projector)).toList
        ++ r.state.toolpath.segments.map (r.segmentOp projector)

def draw {σ : Type} [Surface σ α] (r : Renderer α) (surface : σ) : σ :=
  drawAll surface r.operations

/-! ### Gestures -/

/-- Carries a change of the preview out. -/
def change (r : Renderer α) (f : Preview α → Preview α × Option (PreviewEvent α)) :
    Renderer α × Option (PreviewEvent α) :=
  let (state, event) := f r.state
  ({ r with state }, event)

/-- The pointer goes down: a drag begins. -/
def pointerDown (r : Renderer α) (point : Point α) : Renderer α × Disposition :=
  let pan := r.state.view.pan
  ({ r with drag := some ⟨point.x - pan.x, point.y - pan.y⟩ }, .consumed)

/-- The pointer moves: during a drag the drawing follows. -/
def pointerMove (r : Renderer α) (point : Point α) :
    Renderer α × Option (PreviewEvent α) × Disposition :=
  match r.drag with
  | none => (r, none, .ignored)
  | some offset =>
    let (r', event) := r.change (·.setPan ⟨point.x - offset.x, point.y - offset.y⟩)
    (r', event, .consumed)

def endDrag (r : Renderer α) : Renderer α × Disposition :=
  if r.isDragging then ({ r with drag := none }, .consumed) else (r, .ignored)

def pointerUp (r : Renderer α) (_point : Point α) : Renderer α × Disposition := r.endDrag

def pointerLeave (r : Renderer α) : Renderer α × Disposition := r.endDrag

/-- Ends a drag from outside. -/
def cancelGesture (r : Renderer α) : Renderer α := { r with drag := none }

/-- The wheel turns: one step of zoom at the pointer. -/
def wheel (r : Renderer α) (point : Point α) (delta : α) :
    Renderer α × Option (PreviewEvent α) × Disposition :=
  match WheelDirection.ofDelta? delta with
  | none => (r, none, .consumed)
  | some direction =>
    let (r', event) := r.change (·.zoomAt point direction.factor)
    (r', event, .consumed)

end Renderer

end PenPlotter
