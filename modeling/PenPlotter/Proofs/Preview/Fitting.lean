import PenPlotter.Proofs.Plane.Fitting
import PenPlotter.Proofs.Preview.Picture

/-! # The picture fits

The points that are drawn, the ends of lines and the corners of the sheet, are the points to which
the projector takes the ends of the segments and the corners of the sheet (`Renderer.points_draw`).
The projector is fitted to the extent of just these (`Preview.extent_modelPoints`), and so the
picture reaches as far as the room between the paddings and no farther (`Renderer.picture_fits`). -/

namespace PenPlotter

open Drawing

/-- The points that an operation draws: the ends of a line, or the corners of a rectangle. -/
def Drawing.Op.points : Op Rat → List (Point Rat)
  | .clear _ => []
  | .line start stop _ => [start, stop]
  | .rect origin width height _ =>
    [origin, ⟨origin.x + width, origin.y⟩, ⟨origin.x, origin.y + height⟩,
      ⟨origin.x + width, origin.y + height⟩]

/-- The points that a preview shows: the corners of its sheet and the ends of its segments. -/
def Preview.modelPoints (p : Preview Rat) : List (Point Rat) :=
  (p.paper.toList.flatMap fun paper => (Sheet.bounds ⟨paper.width, paper.height⟩).corners) ++
    p.toolpath.segments.flatMap fun s => [s.start, s.stop]

namespace Renderer

variable {r : Renderer Rat}

/-- The rectangle of a sheet has its corners where the projector takes those of the sheet. -/
theorem points_paperOp (r : Renderer Rat) (q : Projector Rat) (paper : Paper Rat) :
    (r.paperOp q paper).points =
      (Sheet.bounds ⟨paper.width, paper.height⟩).corners.map q.map := by
  have htwo : (2.0 : Rat) = 2 := by norm_num
  have hop : r.paperOp q paper = .rect (q.map paper.topLeft)
      ((q.map paper.bottomRight).x - (q.map paper.topLeft).x)
      ((q.map paper.bottomRight).y - (q.map paper.topLeft).y) r.style.paper := rfl
  rw [hop, Sheet.bounds_rat]
  simp only [Op.points, Box.corners, Projector.map_rat, Paper.topLeft, Paper.bottomRight, htwo,
    List.map_cons, List.map_nil, add_sub_cancel, neg_div]

/-- What is drawn is the projection of what is shown. -/
theorem points_draw {q : Projector Rat} (hq : r.state.projector? = some q) (d : DisplayList Rat) :
    (r.draw d).ops.flatMap Op.points = r.state.modelPoints.map q.map := by
  have hsegments (segments : List (Segment Rat)) :
      (segments.map (r.segmentOp q)).flatMap Op.points =
        (segments.flatMap fun s => [s.start, s.stop]).map q.map := by
    rw [List.flatMap_map, List.map_flatMap]
    rfl
  have hpaper : (r.state.paper.map (r.paperOp q)).toList.flatMap Op.points =
      (r.state.paper.toList.flatMap fun paper =>
        (Sheet.bounds ⟨paper.width, paper.height⟩).corners).map q.map := by
    cases r.state.paper with
    | none => rfl
    | some paper => simpa using r.points_paperOp q paper
  rw [ops_draw, operations_of_projector hq, List.flatMap_cons, List.flatMap_append, hpaper,
    hsegments, ← List.map_append]
  rfl

end Renderer

/-- The projector is fitted to the extent of the points that are shown. -/
theorem Preview.extent_modelPoints {p : Preview Rat} {segments : List (Segment Rat)}
    (h : p.toolpath = .ofSegments segments)
    (hsides : ∀ paper ∈ p.paper, 0 ≤ paper.width ∧ 0 ≤ paper.height) :
    Box.Extent exactRanking
      (Projector.combined p.toolpath.bounds (p.paper.map fun paper => ⟨paper.width, paper.height⟩))
      {m | m ∈ p.modelPoints} := by
  have hbounds : Box.Extent exactRanking p.toolpath.bounds (Toolpath.ends p.toolpath.segments) := by
    rw [h]
    exact Toolpath.extent_bounds fun _ _ => ⟨⟨trivial, trivial⟩, trivial, trivial⟩
  have hpoints : {m | m ∈ p.modelPoints} = Toolpath.ends p.toolpath.segments ∪
      {m | m ∈ (p.paper.map fun paper => (⟨paper.width, paper.height⟩ : Sheet Rat)).toList.flatMap
        fun s => s.bounds.corners} := by
    ext m
    cases hpaper : p.paper <;> simp [modelPoints, Toolpath.ends, hpaper, or_comm]
  rw [hpoints]
  refine Projector.extent_combined hbounds fun s hs => ?_
  obtain ⟨paper, hpaper, rfl⟩ := Option.map_eq_some_iff.mp hs
  exact hsides paper hpaper

/-- Either there is nothing to show, or what is drawn is the projection of what is shown, fitted to
the extent of just this. -/
theorem Renderer.points_draw_cases {r : Renderer Rat} {segments : List (Segment Rat)}
    (h : r.state.toolpath = .ofSegments segments)
    (hsides : ∀ paper ∈ r.state.paper, 0 ≤ paper.width ∧ 0 ≤ paper.height) (d : DisplayList Rat) :
    (r.state.modelPoints = [] ∧ (r.draw d).ops.flatMap Op.points = []) ∨
      ∃ box : Box Rat, box.IsExtent exactRanking {m | m ∈ r.state.modelPoints} ∧
        (r.draw d).ops.flatMap Op.points = r.state.modelPoints.map
          (Projector.fit box r.state.viewport r.state.view r.state.padding).map := by
  have hextent := Preview.extent_modelPoints h hsides
  cases hcombined : Projector.combined r.state.toolpath.bounds
      (r.state.paper.map fun paper => ⟨paper.width, paper.height⟩) with
  | none =>
      have hprojector : r.state.projector? = none := congrArg _ hcombined
      have hempty : {m | m ∈ r.state.modelPoints} = ∅ := by
        rw [hcombined] at hextent
        generalize {m | m ∈ r.state.modelPoints} = shown at hextent
        cases hextent
        rfl
      have hnone : r.state.modelPoints = [] :=
        List.eq_nil_iff_forall_not_mem.mpr (Set.eq_empty_iff_forall_notMem.mp hempty)
      refine Or.inl ⟨hnone, ?_⟩
      rw [ops_draw, operations_of_no_projector hprojector]
      rfl
  | some box =>
      have hprojector : r.state.projector? =
          some (.fit box r.state.viewport r.state.view r.state.padding) := congrArg _ hcombined
      exact Or.inr ⟨box, hextent.isExtent hcombined, points_draw hprojector d⟩

theorem between_paddings {side padding a : Rat} (hside : 2 * padding + 1 ≤ side)
    (h : |a - side / 2| ≤ max (side - 2 * padding) 1 / 2) : padding ≤ a ∧ a ≤ side - padding := by
  rw [max_eq_left (by linarith), abs_le] at h
  constructor <;> linarith

/-- **The picture fits.**  No end of a line and no corner of the sheet is drawn farther from the
middle of the screen, displaced by the pan, than half of the room between the paddings, multiplied
by the zoom.  All points are projected with one positive scale, upwards turned over, and along the
side that limits the scale both ends of the room are reached, unless what is shown is shorter than
the least span.  Without zoom and pan everything is between the paddings, if the screen is not too
small. -/
theorem Renderer.picture_fits {r : Renderer Rat} {source : String}
    (hsource : r.state.toolpath = Toolpath.ofProgram source)
    (hsides : ∀ paper ∈ r.state.paper, 0 ≤ paper.width ∧ 0 ≤ paper.height)
    (hzoom : r.state.view.InRange) (d : DisplayList Rat) :
    let points := (r.draw d).ops.flatMap Op.points
    let screen := r.state.viewport
    let view := r.state.view
    let padding := r.state.padding
    let roomX := max (screen.width - 2 * padding) 1
    let roomY := max (screen.height - 2 * padding) 1
    let middle : Point Rat := ⟨screen.width / 2 + view.pan.x, screen.height / 2 + view.pan.y⟩
    (∀ p ∈ points, |p.x - middle.x| ≤ roomX * view.zoom / 2 ∧
      |p.y - middle.y| ≤ roomY * view.zoom / 2) ∧
    (r.state.modelPoints = [] ∧ points = [] ∨
      ∃ box : Box Rat, box.IsExtent exactRanking {m | m ∈ r.state.modelPoints} ∧
        let scaleX := roomX / max box.width 1
        let scaleY := roomY / max box.height 1
        let scale := min scaleX scaleY * view.zoom
        0 < scale ∧
        points = r.state.modelPoints.map (fun m =>
          ⟨middle.x + (m.x - (box.minX + box.maxX) / 2) * scale,
            middle.y - (m.y - (box.minY + box.maxY) / 2) * scale⟩) ∧
        (scaleX ≤ scaleY → 1 ≤ box.width →
          (∃ p ∈ points, p.x = middle.x - roomX * view.zoom / 2) ∧
            ∃ p ∈ points, p.x = middle.x + roomX * view.zoom / 2) ∧
        (scaleY ≤ scaleX → 1 ≤ box.height →
          (∃ p ∈ points, p.y = middle.y - roomY * view.zoom / 2) ∧
            ∃ p ∈ points, p.y = middle.y + roomY * view.zoom / 2)) ∧
    (view.zoom = 1 → view.pan = ⟨0, 0⟩ → 2 * padding + 1 ≤ screen.width →
      2 * padding + 1 ≤ screen.height → ∀ p ∈ points,
        (padding ≤ p.x ∧ p.x ≤ screen.width - padding) ∧
          padding ≤ p.y ∧ p.y ≤ screen.height - padding) := by
  intro points screen view padding roomX roomY middle
  have hcases := r.points_draw_cases hsource hsides d
  have hwithin : ∀ p ∈ points, |p.x - middle.x| ≤ roomX * view.zoom / 2 ∧
      |p.y - middle.y| ≤ roomY * view.zoom / 2 := by
    intro p hp
    rcases hcases with ⟨-, hnone⟩ | ⟨box, hbox, hpoints⟩
    · rw [show points = [] from hnone] at hp
      cases hp
    · rw [show points = _ from hpoints] at hp
      obtain ⟨m, hm, rfl⟩ := List.mem_map.mp hp
      exact Projector.abs_map_fit_le hbox hm hzoom
  refine ⟨hwithin, hcases.imp_right ?_, ?_⟩
  · rintro ⟨box, hbox, hpoints⟩
    have hscale := Projector.scale_fit_pos box screen padding hzoom
    have hprojected (m : Point Rat) := Projector.map_fit_rat box screen view padding m
    rw [Projector.scale_fit_rat, Projector.baseScale_fit_rat] at hscale
    rw [Projector.baseScale_fit_rat] at hprojected
    have hexists {P : Point Rat → Prop}
        (h : ∃ m ∈ {m | m ∈ r.state.modelPoints},
          P ((Projector.fit box screen view padding).map m)) : ∃ p ∈ points, P p := by
      obtain ⟨m, hm, hP⟩ := h
      exact ⟨_, by rw [show points = _ from hpoints]; exact List.mem_map_of_mem hm, hP⟩
    refine ⟨box, hbox, hscale, ?_, ?_, ?_⟩
    · exact hpoints.trans (List.map_congr_left fun m _ => hprojected m)
    · intro hlimits hspan
      exact (Projector.exists_map_fit_x hbox hlimits hspan).imp hexists hexists
    · intro hlimits hspan
      exact (Projector.exists_map_fit_y hbox hlimits hspan).imp hexists hexists
  · intro hone hpan hwidth hheight p hp
    have hp := hwithin p hp
    have hmiddle : middle = ⟨screen.width / 2, screen.height / 2⟩ := by
      show (⟨screen.width / 2 + view.pan.x, screen.height / 2 + view.pan.y⟩ : Point Rat) = _
      rw [hpan, add_zero, add_zero]
    rw [hone, mul_one, mul_one, hmiddle] at hp
    exact ⟨between_paddings hwidth hp.1, between_paddings hheight hp.2⟩

/-- A program that leaves the sheet, on a screen of 800 by 600 pixels. -/
theorem Renderer.picture_fits_beyond_sheet :
    let source := "G0 X-300 Y20\nG1 X40 Y400"
    let preview := (Preview.new ⟨800, 600⟩).setSource source |>.1
    let r : Renderer Rat := .new { preview with paper := some ⟨"A4", 210, 297⟩ }
    r.state.toolpath = Toolpath.ofProgram source ∧
      (∀ paper ∈ r.state.paper, 0 ≤ paper.width ∧ 0 ≤ paper.height) ∧ r.state.view.InRange ∧
      ∀ p ∈ (r.draw DisplayList.empty).ops.flatMap Op.points,
        (20 ≤ p.x ∧ p.x ≤ 780) ∧ 20 ≤ p.y ∧ p.y ≤ 580 := by
  intro source preview r
  have hsource : r.state.toolpath = Toolpath.ofProgram source := rfl
  have hsides : ∀ paper ∈ r.state.paper, 0 ≤ paper.width ∧ 0 ≤ paper.height := by
    decide +kernel
  have hzoom : r.state.view.InRange := ⟨by decide +kernel, by decide +kernel⟩
  refine ⟨hsource, hsides, hzoom, fun p hp => ?_⟩
  have hpan : r.state.view.pan = ⟨0, 0⟩ :=
    congrArg₂ Point.mk (by decide +kernel) (by decide +kernel)
  have hpadding : r.state.padding = 20 := by decide +kernel
  have hwidth : r.state.viewport.width - 20 = 780 := by decide +kernel
  have hheight : r.state.viewport.height - 20 = 580 := by decide +kernel
  have hinside := (picture_fits hsource hsides hzoom DisplayList.empty).2.2 (by decide +kernel) hpan
    (by decide +kernel) (by decide +kernel) p hp
  rwa [hpadding, hwidth, hheight] at hinside

end PenPlotter
