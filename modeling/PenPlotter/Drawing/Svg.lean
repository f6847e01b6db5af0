import PenPlotter.Decimal.Shortest
import PenPlotter.Drawing.Basic

/-! # SVG documents

A canvas keeps the elements drawn since the last clearing and writes them as one SVG document.
Coordinates have two decimal places, dashes one; the size of the canvas is written with the
fewest digits. -/

namespace PenPlotter.Drawing

/-- A canvas of a given size with the text of the elements drawn so far. -/
structure SvgCanvas where
  width : Float
  height : Float
  body : String
deriving Inhabited

namespace SvgCanvas

/-- An attribute with its value in quotation marks. -/
def attr (name value : String) : String := name ++ "=\"" ++ value ++ "\""

def strokeAttrs (s : Stroke Float) : String :=
  let solid := attr "stroke" s.color.text ++ " " ++ attr "stroke-width" (fixedText 2 s.width)
    ++ " " ++ attr "stroke-opacity" (fixedText 2 s.opacity)
  match s.dash with
  | none => solid
  | some (dash, gap) =>
    solid ++ " " ++ attr "stroke-dasharray" (fixedText 1 dash ++ " " ++ fixedText 1 gap)

/-- The element that carries out one operation on a canvas of the given size. -/
def element (width height : Float) : Op Float → String
  | .clear background =>
    "<rect " ++ attr "x" "0" ++ " " ++ attr "y" "0" ++ " " ++ attr "width" (numberText width) ++ " "
      ++ attr "height" (numberText height) ++ " " ++ attr "fill" background.text ++ "/>\n"
  | .line start stop stroke =>
    "<line " ++ attr "x1" (fixedText 2 start.x) ++ " " ++ attr "y1" (fixedText 2 start.y) ++ " "
      ++ attr "x2" (fixedText 2 stop.x) ++ " " ++ attr "y2" (fixedText 2 stop.y) ++ " "
      ++ strokeAttrs stroke ++ " " ++ attr "stroke-linecap" "round" ++ "/>\n"
  | .rect origin w h stroke =>
    "<rect " ++ attr "x" (fixedText 2 origin.x) ++ " " ++ attr "y" (fixedText 2 origin.y) ++ " "
      ++ attr "width" (fixedText 2 w) ++ " " ++ attr "height" (fixedText 2 h) ++ " "
      ++ attr "fill" "none" ++ " " ++ strokeAttrs stroke ++ "/>\n"

/-- A canvas without elements. -/
def new (width height : Float) : SvgCanvas := ⟨width, height, ""⟩

/-- Adds the element of one operation; clearing drops the earlier ones. -/
def add (c : SvgCanvas) (op : Op Float) : SvgCanvas :=
  match op with
  | .clear _ => { c with body := element c.width c.height op }
  | _ => { c with body := c.body ++ element c.width c.height op }

instance : Surface SvgCanvas Float := ⟨add⟩

/-- The opening tag of a document. -/
def header (width height : Float) : String :=
  let w := numberText width
  let h := numberText height
  "<svg " ++ attr "xmlns" "http://www.w3.org/2000/svg" ++ " " ++ attr "width" w ++ " "
    ++ attr "height" h ++ " " ++ attr "viewBox" ("0 0 " ++ w ++ " " ++ h) ++ ">\n"

def document (c : SvgCanvas) : String := header c.width c.height ++ c.body ++ "</svg>\n"

end SvgCanvas

end PenPlotter.Drawing
