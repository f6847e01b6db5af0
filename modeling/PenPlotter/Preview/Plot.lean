import PenPlotter.Decimal.Binary
import PenPlotter.Drawing.Svg
import PenPlotter.Preview.Renderer
import PenPlotter.Trouble

/-! # Plots

A plot is the picture of a program with its numbers.  `Plot.toFile` reads a program from a file
and writes its picture to another; nothing is written unless everything before succeeds. -/

namespace PenPlotter

open Drawing

/-- The picture of a program, and the program's numbers. -/
structure Plot where
  svg : String
  stats : ToolpathStats
  bounds : Option (Box Float)
deriving Repr, Inhabited

/-- What is to be plotted and how. -/
structure PlotRequest where
  source : Location
  target : Location
  paper : Option String
  landscape : Bool
  width : Option UInt32
  height : Option UInt32
  zoom : Float
  pan : Point Float
deriving Repr, Inhabited

namespace Plot

def ofProgram (source : String) (paper : Option (Paper Float)) (viewport : Viewport Float)
    (view : View Float) (padding : Float) : Plot :=
  let state := ((Preview.new viewport).withPadding padding).setSource source |>.1
  let state := (state.setPaper paper).1
  let state := (state.setView view).1
  let canvas := (Renderer.new state).draw (SvgCanvas.new viewport.width viewport.height)
  ⟨canvas.document, state.toolpath.stats, state.toolpath.bounds⟩

/-- A length with one place after the point. -/
def length (x : Float) : String := fixedText 1 x

/-- The numbers of a plot on one line. -/
def summary (p : Plot) : String :=
  let s := p.stats
  let moves := toString s.drawMoves ++ " draw moves (" ++ length s.drawDistance ++ " mm), " ++
    toString s.travelMoves ++ " travel moves (" ++ length s.travelDistance ++ " mm)"
  match p.bounds with
  | none => moves
  | some b => moves ++ ", extent X " ++ length b.minX ++ ".." ++ length b.maxX ++
      " Y " ++ length b.minY ++ ".." ++ length b.maxY

/-- The paper of the given name, or the usual one. -/
def choosePaper (name : Option String) (landscape : Bool) (settings : PreviewSettings) :
    Except Trouble (Option (Paper Float)) := do
  let paper ← match name with
    | some name =>
      match Paper.ofName? name with
      | some p => pure (some p)
      | none => .error ⟨[], .text ("unknown paper '" ++ name ++ "'")⟩
    | none => troubled .problem [] settings.paper
  return if landscape then paper.map Paper.landscape else paper

/-- The sides of the canvas: those asked for, or the usual ones; none may be zero. -/
def canvas (r : PlotRequest) (settings : PreviewSettings) : Except Trouble (Viewport Float) :=
  let width := r.width.getD settings.canvasWidth
  let height := r.height.getD settings.canvasHeight
  if width = 0 ∨ height = 0 then
    .error ⟨[], .text ("canvas size must be non-zero, got " ++ toString width.toNat ++ "x" ++
      toString height.toNat)⟩
  else .ok ⟨width.toFloat, height.toFloat⟩

def ofRequest (fs : FileSystem) (r : PlotRequest) (settings : PreviewSettings) :
    Except Trouble Plot := do
  let source ← troubled .files ["reading " ++ r.source.text] (fs.readText r.source)
  let paper ← choosePaper r.paper r.landscape settings
  let viewport ← canvas r settings
  return ofProgram source paper viewport (View.new r.zoom r.pan) settings.padding

/-- Writes the plot that is asked for, and gives its summary. -/
def toFile (fs : FileSystem) (r : PlotRequest) (settings : PreviewSettings) :
    FileSystem × Except Trouble String :=
  match ofRequest fs r settings with
  | .error e => (fs, .error e)
  | .ok plot =>
    let (fs', outcome) := fs.writeText r.target plot.svg
    (fs', (troubled .files ["writing " ++ r.target.text] outcome).map fun _ => plot.summary)

end Plot

end PenPlotter
