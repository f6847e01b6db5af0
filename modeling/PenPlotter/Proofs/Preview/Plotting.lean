import PenPlotter.Preview.Plot
import PenPlotter.Proofs.Drawing.Elements
import PenPlotter.Proofs.Files.Writing
import PenPlotter.Proofs.Preview.Caching

/-! # Plots that are made or not made

A request is filled in by the settings: its paper and the sides of its canvas are the usual ones
where it does not name any.  It can be drawn (`PlotRequest.Drawable`) if its source is a text, its
paper is known and no side is zero, and then there is one plot of it (`Plot.ofRequest_eq_ok_iff`).

A file is written last, in one step.  So a request for which there is no plot, or no place for one,
leaves the files as they are, and any other changes what is at its target and nothing else
(`Plot.toFile_all_or_nothing`).  The document that is then there has a line element for each segment
of the program (`Plot.lineElements_svg`). -/

namespace PenPlotter

open Drawing

/-! ### Steps that may fail -/

theorem troubled_eq_ok_iff {ε α : Type} {cause : ε → Cause} {doing : List String}
    {x : Except ε α} {a : α} : troubled cause doing x = .ok a ↔ x = .ok a := by
  cases x <;> simp [troubled, Except.mapError]

theorem bind_eq_ok_iff {ε α β : Type} {x : Except ε α} {f : α → Except ε β} {b : β} :
    x >>= f = .ok b ↔ ∃ a, x = .ok a ∧ f a = .ok b := by
  cases x <;> simp [bind, Except.bind]

/-! ### Requests -/

namespace PlotRequest

variable (r : PlotRequest) (settings : PreviewSettings)

def paperName? : Option String := r.paper.or settings.defaultPaper

def sheet? : Option (Paper Float) :=
  let paper := (r.paperName? settings).bind Paper.ofName?
  if r.landscape then paper.map Paper.landscape else paper

def sides : UInt32 × UInt32 :=
  (r.width.getD settings.canvasWidth, r.height.getD settings.canvasHeight)

/-- The canvas as the renderer gets it. -/
def viewport : Viewport Float :=
  ⟨(r.sides settings).1.toFloat, (r.sides settings).2.toFloat⟩

/-- The plot of a program with everything else as requested. -/
def plot (source : String) : Plot :=
  .ofProgram source (r.sheet? settings) (r.viewport settings) ⟨View.clampZoom r.zoom, r.pan⟩
    settings.padding

/-- A request can be drawn: there is a program, its paper is known, and its canvas is not empty. -/
structure Drawable (fs : FileSystem) (source : String) : Prop where
  readText_eq : fs.readText r.source = .ok source
  isSome_paper : ∀ name ∈ r.paperName? settings,
    (Paper.ofName? name : Option (Paper Float)).isSome = true
  width_ne_zero : (r.sides settings).1 ≠ 0
  height_ne_zero : (r.sides settings).2 ≠ 0

end PlotRequest

/-! ### Plots -/

namespace Plot

variable {fs : FileSystem} {r : PlotRequest} {settings : PreviewSettings}

/-- **Each segment of the program is one line element** of the document. -/
theorem lineElements_svg (source : String) (paper : Option (Paper Float))
    (viewport : Viewport Float) (view : View Float) (padding : Float) :
    lineElements (ofProgram source paper viewport view padding).svg =
      (Toolpath.ofProgram source : Toolpath Float).segments.length := by
  let preview := ((Preview.new viewport).withPadding padding).setSource source |>.1
  let shown := ((preview.setPaper paper).1.setView view).1
  have htoolpath : shown.toolpath = Toolpath.ofProgram source := by
    unfold Preview.toolpath
    rw [Preview.cache_setView, Preview.cache_setPaper, Preview.cache_setSource]
    rfl
  obtain ⟨q, hlines⟩ := Renderer.exists_lines_draw (r := .new shown) htoolpath .empty
  refine (lineElements_drawAll _ _ _).trans ((congrArg List.length hlines).trans ?_)
  rw [List.length_map]
  rfl

theorem choosePaper_eq_ok_iff {sheet : Option (Paper Float)} :
    choosePaper r.paper r.landscape settings = .ok sheet ↔
      (∀ name ∈ r.paperName? settings,
        (Paper.ofName? name : Option (Paper Float)).isSome = true) ∧
      r.sheet? settings = sheet := by
  unfold choosePaper PlotRequest.sheet? PlotRequest.paperName?
  cases r.paper with
  | some name =>
      cases hpaper : (Paper.ofName? name : Option (Paper Float)) <;>
        simp [bind, Except.bind, pure, Except.pure, hpaper]
  | none =>
      unfold PreviewSettings.paper
      cases settings.defaultPaper with
      | none => simp [troubled, Except.mapError, bind, Except.bind, pure, Except.pure]
      | some name =>
          cases hpaper : (Paper.ofName? name : Option (Paper Float)) <;>
            simp [troubled, Except.mapError, bind, Except.bind, pure, Except.pure, hpaper]

theorem canvas_eq_ok_iff {viewport : Viewport Float} :
    canvas r settings = .ok viewport ↔
      ((r.sides settings).1 ≠ 0 ∧ (r.sides settings).2 ≠ 0) ∧ r.viewport settings = viewport := by
  unfold canvas PlotRequest.viewport PlotRequest.sides
  dsimp only
  split_ifs with hzero
  · refine iff_of_false nofun fun h => ?_
    exact hzero.elim h.1.1 h.1.2
  · rw [not_or] at hzero
    simp only [Except.ok.injEq, hzero, ne_eq, not_false_eq_true, and_self, true_and]

/-- There is one plot of a request that can be drawn, and none of any other. -/
theorem ofRequest_eq_ok_iff {plot : Plot} :
    ofRequest fs r settings = .ok plot ↔
      ∃ source, r.Drawable settings fs source ∧ r.plot settings source = plot := by
  unfold ofRequest
  simp only [bind_eq_ok_iff, troubled_eq_ok_iff, choosePaper_eq_ok_iff, canvas_eq_ok_iff]
  constructor
  · rintro ⟨source, hread, _, ⟨hpaper, rfl⟩, _, ⟨⟨hwidth, hheight⟩, rfl⟩, hplot⟩
    exact ⟨source, ⟨hread, hpaper, hwidth, hheight⟩, Except.ok.inj hplot⟩
  · rintro ⟨source, ⟨hread, hpaper, hwidth, hheight⟩, rfl⟩
    exact ⟨source, hread, _, ⟨hpaper, rfl⟩, _, ⟨⟨hwidth, hheight⟩, rfl⟩, rfl⟩

/-- A plot is put where a file can be written, or nothing is done. -/
theorem toFile_cases (fs : FileSystem) (r : PlotRequest) (settings : PreviewSettings) :
    (∃ source place, r.Drawable settings fs source ∧ fs.Writable r.target place ∧
      toFile fs r settings = (fs.put place (.file (.text (r.plot settings source).svg)),
        .ok (r.plot settings source).summary)) ∨
    (((∀ source, ¬r.Drawable settings fs source) ∨ ∀ place, ¬fs.Writable r.target place) ∧
      ∃ e, toFile fs r settings = (fs, .error e)) := by
  unfold toFile
  cases hplot : ofRequest fs r settings with
  | error e =>
      refine .inr ⟨.inl fun source hdrawable => ?_, e, rfl⟩
      cases hplot.symm.trans (ofRequest_eq_ok_iff.mpr ⟨source, hdrawable, rfl⟩)
  | ok plot =>
      obtain ⟨source, hdrawable, rfl⟩ := ofRequest_eq_ok_iff.mp hplot
      dsimp only
      rcases fs.writeText_cases r.target (r.plot settings source).svg with
        ⟨place, hplace, hwrite⟩ | ⟨hnone, e, hwrite⟩
      · rw [hwrite]
        exact .inl ⟨source, place, hdrawable, hplace, rfl⟩
      · rw [hwrite]
        exact .inr ⟨.inr hnone, ⟨["writing " ++ r.target.text], .files e⟩, rfl⟩

/-- **Plotting is all or nothing.**  Whatever the files, the request and the settings are, there is a
plot exactly if the request can be drawn and a file can be written at its target.  Otherwise every
file is left as it is.  If there is one, the file to which the target leads holds the document of the
program that was read, on the paper and the canvas of the request or else of the settings, with a
line element for each segment; what is at any other place is left as it is. -/
theorem toFile_all_or_nothing (fs : FileSystem) (r : PlotRequest) (settings : PreviewSettings) :
    let fs' := (toFile fs r settings).1
    let outcome := (toFile fs r settings).2
    (outcome.isOk = true ↔
      (∃ source, r.Drawable settings fs source) ∧ ∃ place, fs.Writable r.target place) ∧
    (∀ e, outcome = .error e → fs' = fs) ∧
    ∀ summary, outcome = .ok summary → ∃ source place,
      fs.readText r.source = .ok source ∧ fs'.locate r.target = .ok place ∧
      (∀ other ≠ place, fs'.find? other = fs.find? other) ∧
      fs'.find? place = some (.file (.text (r.plot settings source).svg)) ∧
      summary = (r.plot settings source).summary ∧
      lineElements (r.plot settings source).svg =
        (Toolpath.ofProgram source : Toolpath Float).segments.length := by
  intro fs' outcome
  rcases toFile_cases fs r settings with
    ⟨source, place, hdrawable, hplace, hdone⟩ | ⟨hnone, e, hdone⟩
  · have hfs : fs' = fs.put place _ := congrArg Prod.fst hdone
    have houtcome : outcome = .ok _ := congrArg Prod.snd hdone
    rw [hfs, houtcome]
    refine ⟨iff_of_true rfl ⟨⟨source, hdrawable⟩, place, hplace⟩, nofun, ?_⟩
    rintro _ ⟨⟩
    exact ⟨source, place, hdrawable.readText_eq, hplace.locate,
      fun _ => FileSystem.find?_put_of_ne, hplace.find?, rfl, lineElements_svg ..⟩
  · have hfs : fs' = fs := congrArg Prod.fst hdone
    have houtcome : outcome = .error e := congrArg Prod.snd hdone
    rw [hfs, houtcome]
    refine ⟨iff_of_false nofun ?_, fun _ _ => rfl, nofun⟩
    rintro ⟨⟨source, hdrawable⟩, place, hplace⟩
    exact hnone.elim (· source hdrawable) (· place hplace)

-- A canvas without height is refused before the program is overwritten by its own picture.
example :
    let fs : FileSystem := ⟨[(["plot"], .file (.text "G1 X10\nG0 Y5"))]⟩
    let request : PlotRequest := ⟨⟨"plot"⟩, ⟨"plot"⟩, some "a4", true, none, some 0, 9, ⟨0, 0⟩⟩
    (toFile fs request {}).1.readText ⟨"plot"⟩ = .ok "G1 X10\nG0 Y5" := by
  rfl

end Plot
end PenPlotter
