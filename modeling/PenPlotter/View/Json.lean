import PenPlotter.Json.Reading
import PenPlotter.Paper
import PenPlotter.Toolpath.Basic
import PenPlotter.View.Projector

/-! # Geometry as JSON

Points, boxes, toolpaths, views and sizes are objects with a member for each part.  Reading a
view takes its zoom as it is given. -/

namespace PenPlotter

open Json

namespace Point

def toJson (p : Point Float) : Json := .object [("x", .float p.x), ("y", .float p.y)]

def ofTree? (t : Tree) : Option (Point Float) := do
  let r ← t.record? ["x", "y"]
  some ⟨← r.required "x" Tree.float?, ← r.required "y" Tree.float?⟩

end Point

namespace Box

def toJson (b : Box Float) : Json :=
  .object [("min_x", .float b.minX), ("max_x", .float b.maxX), ("min_y", .float b.minY),
    ("max_y", .float b.maxY)]

def ofTree? (t : Tree) : Option (Box Float) := do
  let r ← t.record? ["min_x", "max_x", "min_y", "max_y"]
  some ⟨← r.required "min_x" Tree.float?, ← r.required "max_x" Tree.float?,
    ← r.required "min_y" Tree.float?, ← r.required "max_y" Tree.float?⟩

end Box

namespace Segment

def toJson (s : Segment Float) : Json :=
  .object [("from", s.start.toJson), ("to", s.stop.toJson), ("pen_down", .bool s.penDown)]

def ofTree? (t : Tree) : Option (Segment Float) := do
  let r ← t.record? ["from", "to", "pen_down"]
  some ⟨← r.required "from" Point.ofTree?, ← r.required "to" Point.ofTree?,
    ← r.required "pen_down" Tree.bool?⟩

end Segment

namespace Toolpath

def toJson (p : Toolpath Float) : Json :=
  .object [("segments", .array (p.segments.map Segment.toJson)),
    ("bounds", match p.bounds with
      | some b => b.toJson
      | none => .null)]

def ofTree? (t : Tree) : Option (Toolpath Float) := do
  let r ← t.record? ["segments", "bounds"]
  some ⟨← r.required "segments" (Tree.list? Segment.ofTree?), ← r.nullable "bounds" (Tree.nullable? Box.ofTree?)⟩

end Toolpath

namespace View

def toJson (v : View Float) : Json := .object [("zoom", .float v.zoom), ("pan", v.pan.toJson)]

def ofTree? (t : Tree) : Option (View Float) := do
  let r ← t.record? ["zoom", "pan"]
  some ⟨← r.required "zoom" Tree.float?, ← r.required "pan" Point.ofTree?⟩

def ofJsonText? (s : String) : Option (View Float) := (Tree.ofString? s).bind ofTree?

end View

/-- An object of a width and a height. -/
def sidesToJson (width height : Float) : Json :=
  .object [("width", .float width), ("height", .float height)]

/-- Reads a width and a height. -/
def sidesOfTree? (t : Tree) : Option (Float × Float) := do
  let r ← t.record? ["width", "height"]
  some (← r.required "width" Tree.float?, ← r.required "height" Tree.float?)

namespace Sheet

def toJson (s : Sheet Float) : Json := sidesToJson s.width s.height

def ofTree? (t : Tree) : Option (Sheet Float) := (sidesOfTree? t).map fun (w, h) => ⟨w, h⟩

end Sheet

namespace Viewport

def toJson (v : Viewport Float) : Json := sidesToJson v.width v.height

def ofTree? (t : Tree) : Option (Viewport Float) := (sidesOfTree? t).map fun (w, h) => ⟨w, h⟩

end Viewport

namespace Paper

def toJson (p : Paper Float) : Json :=
  .object [("name", .string p.name), ("width_mm", .float p.width), ("height_mm", .float p.height)]

/-- Reads a sheet of paper. -/
def ofTree? (t : Tree) : Option (Paper Float) := do
  let r ← t.record? ["name", "width_mm", "height_mm"]
  some ⟨← r.required "name" Tree.string?, ← r.required "width_mm" Tree.float?,
    ← r.required "height_mm" Tree.float?⟩

end Paper

end PenPlotter
