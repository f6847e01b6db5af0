import PenPlotter.Preview.Renderer
import PenPlotter.Proofs.Plane.Extent
import PenPlotter.Proofs.Toolpath.Path

/-! # The picture of a program

The operations of a picture begin with a clearing and have no other.  So a display list holds
exactly them after a picture was drawn on it, whatever it held before (`Renderer.ops_draw`).

There is a projector unless there is neither a segment nor a sheet, and then each segment is one
line between the points to which its ends are projected.  What is true of the segments is read off
the lines (`Renderer.exists_lines_draw`): they join, since the segments are a path, and there are as
many of each kind as the numbers of the toolpath say.  `Renderer.picture_of_program` has all of
this. -/

namespace PenPlotter

open Drawing

variable {α : Type}

/-! ### Display lists -/

namespace Drawing

/-- The second operation draws a line on from where the line of the first one stops. -/
inductive Op.Joined : Op α → Op α → Prop
  | intro (p q r : Point α) (first second : Stroke α) :
      Joined (.line p q first) (.line q r second)

/-- Whether the operation draws a line with a stroke that passes a test. -/
def Op.isLineWith (test : Stroke α → Bool) : Op α → Bool
  | .line _ _ stroke => test stroke
  | _ => false

theorem record_of_not_clear {op : Op α} (h : ∀ background, op ≠ .clear background)
    (d : DisplayList α) : d.record op = ⟨d.ops ++ [op]⟩ := by
  cases op with
  | clear background => exact absurd rfl (h background)
  | line => rfl
  | rect => rfl

theorem drawAll_of_not_clear {ops : List (Op α)}
    (h : ∀ op ∈ ops, ∀ background, op ≠ .clear background) (d : DisplayList α) :
    drawAll d ops = ⟨d.ops ++ ops⟩ := by
  induction ops generalizing d with
  | nil => rw [List.append_nil]; rfl
  | cons op ops ih =>
      rw [List.forall_mem_cons] at h
      have hop : Surface.apply d op = (⟨d.ops ++ [op]⟩ : DisplayList α) :=
        record_of_not_clear h.1 d
      show drawAll (Surface.apply d op) ops = _
      rw [hop, ih h.2, List.append_assoc, List.singleton_append]

end Drawing

/-! ### Counting moves -/

theorem counts_foldl_add (segments : List (Segment Float)) (t : ToolpathStats) :
    (segments.foldl .add t).drawMoves = t.drawMoves + segments.countP (·.penDown) ∧
      (segments.foldl .add t).travelMoves = t.travelMoves + segments.countP (!·.penDown) := by
  induction segments generalizing t with
  | nil => exact ⟨rfl, rfl⟩
  | cons s segments ih =>
      obtain ⟨hdraw, htravel⟩ := ih (t.add s)
      rw [List.foldl_cons, hdraw, htravel, List.countP_cons, List.countP_cons]
      cases hpen : s.penDown <;> simp [ToolpathStats.add, hpen, Nat.add_assoc, Nat.add_comm 1]

theorem Toolpath.counts_stats (t : Toolpath Float) :
    t.stats.drawMoves = t.segments.countP (·.penDown) ∧
      t.stats.travelMoves = t.segments.countP (!·.penDown) := by
  obtain ⟨hdraw, htravel⟩ := counts_foldl_add t.segments ⟨0, 0, 0.0, 0.0⟩
  exact ⟨hdraw.trans (Nat.zero_add _), htravel.trans (Nat.zero_add _)⟩

/-! ### Pictures -/

section corners

variable [Scalar α]

/-- The corner of a sheet that is seen at its top left. -/
def Paper.topLeft (p : Paper α) : Point α := ⟨-(p.width / 2.0), p.height / 2.0⟩

/-- The corner of a sheet that is seen at its bottom right. -/
def Paper.bottomRight (p : Paper α) : Point α := ⟨p.width / 2.0, -(p.height / 2.0)⟩

end corners

namespace Renderer

variable [Scalar α] (r : Renderer α)

/-- **Nothing is left** of what the display list held before. -/
theorem ops_draw (d : DisplayList α) : (r.draw d).ops = r.operations := by
  have hclear : ∃ ops, r.operations = .clear r.style.background :: ops ∧
      ∀ op ∈ ops, ∀ background, op ≠ .clear background := by
    refine ⟨_, rfl, ?_⟩
    cases r.state.projector? with
    | none => nofun
    | some q =>
        intro op hop background
        rcases List.mem_append.mp hop with hpaper | hsegment
        · obtain ⟨_, _, rfl⟩ := Option.map_eq_some_iff.mp (Option.mem_toList.mp hpaper)
          nofun
        · obtain ⟨_, _, rfl⟩ := List.mem_map.mp hsegment
          nofun
  obtain ⟨ops, hops, hkept⟩ := hclear
  unfold draw
  rw [hops]
  exact congrArg DisplayList.ops (drawAll_of_not_clear hkept ⟨[.clear r.style.background]⟩)

variable {r}

theorem operations_of_projector {q : Projector α} (hq : r.state.projector? = some q) :
    r.operations = .clear r.style.background :: ((r.state.paper.map (r.paperOp q)).toList ++
      r.state.toolpath.segments.map (r.segmentOp q)) := by
  unfold operations
  rw [hq]

theorem operations_of_no_projector (h : r.state.projector? = none) :
    r.operations = [.clear r.style.background] := by
  unfold operations
  rw [h]

variable {segments : List (Segment α)}

theorem projector?_eq_none_iff (h : r.state.toolpath = .ofSegments segments) :
    r.state.projector? = none ↔ segments = [] ∧ r.state.paper = none := by
  unfold Preview.projector?
  rw [Projector.new?_eq_none_iff, Option.map_eq_none_iff, h, Toolpath.bounds_eq_none_iff]

theorem ops_draw_eq_clear_iff (h : r.state.toolpath = .ofSegments segments) (d : DisplayList α) :
    (r.draw d).ops = [.clear r.style.background] ↔ segments = [] ∧ r.state.paper = none := by
  rw [ops_draw]
  cases hq : r.state.projector? with
  | none => exact iff_of_true (operations_of_no_projector hq) ((projector?_eq_none_iff h).mp hq)
  | some q =>
      rw [operations_of_projector hq, h, Toolpath.segments_ofSegments, List.cons_eq_cons,
        List.append_eq_nil_iff, List.map_eq_nil_iff, Option.toList_eq_nil_iff,
        Option.map_eq_none_iff]
      simp only [true_and, and_comm]

theorem exists_lines_draw (h : r.state.toolpath = .ofSegments segments) (d : DisplayList α) :
    ∃ q : Projector α, (r.draw d).lines = segments.map (r.segmentOp q) := by
  unfold DisplayList.lines
  rw [ops_draw]
  cases hq : r.state.projector? with
  | none =>
      obtain ⟨rfl, _⟩ := (projector?_eq_none_iff h).mp hq
      rw [operations_of_no_projector hq]
      exact ⟨.fit (Box.single Point.origin) r.state.viewport r.state.view r.state.padding, rfl⟩
  | some q =>
      have hpaper : (r.state.paper.map (r.paperOp q)).toList.filter Op.isLine = [] := by
        cases r.state.paper <;> rfl
      have hsegments : (segments.map (r.segmentOp q)).filter Op.isLine =
          segments.map (r.segmentOp q) := by
        rw [List.filter_eq_self]
        intro op hop
        obtain ⟨_, _, rfl⟩ := List.mem_map.mp hop
        rfl
      refine ⟨q, ?_⟩
      rw [operations_of_projector hq, h, List.filter_cons_of_neg Bool.false_ne_true,
        List.filter_append, hpaper, Toolpath.segments_ofSegments, hsegments, List.nil_append]

theorem isChain_segmentOp (q : Projector α) {start stop : Point α}
    (h : Path start segments stop) : (segments.map (r.segmentOp q)).IsChain Op.Joined := by
  rw [List.isChain_map]
  refine h.isChain.imp fun s t hst => ?_
  unfold segmentOp
  rw [hst]
  exact .intro ..

/-- A test that tells the two strokes of the moves apart finds those that draw. -/
theorem countP_segmentOp (q : Projector α) {test : Stroke α → Bool} (pen : Bool)
    (hdraw : test r.style.draw = pen) (htravel : test r.style.travel = !pen) :
    (segments.map (r.segmentOp q)).countP (Op.isLineWith test) =
      segments.countP (·.penDown == pen) := by
  rw [List.countP_map]
  refine List.countP_congr fun s _ => ?_
  unfold segmentOp
  cases hpen : s.penDown <;> cases pen <;> simp_all [Op.isLineWith]

end Renderer

/-- **The picture is the program.**  Whatever was drawn before, the display list holds the
background, the sheet if one is chosen, and a line for each segment in order, all where the
projector maps them; there is a projector, and more than the background, unless there is neither a
segment nor a sheet.  Each line starts at the very point where the one before it stops, there are as
many of each kind as the numbers of the program say, and to draw again changes nothing. -/
theorem Renderer.picture_of_program {r : Renderer Float} {source : String}
    (hsource : r.state.toolpath = Toolpath.ofProgram source) (d : DisplayList Float) :
    let picture := r.draw d
    let segments := (Toolpath.ofProgram source : Toolpath Float).segments
    let stats := (Toolpath.ofProgram source : Toolpath Float).stats
    (r.state.projector? = none ↔ segments = [] ∧ r.state.paper = none) ∧
    (picture.ops = [.clear r.style.background] ↔ segments = [] ∧ r.state.paper = none) ∧
    (∀ q ∈ r.state.projector?, picture.ops = .clear r.style.background ::
      ((r.state.paper.map fun paper =>
        .rect (q.map paper.topLeft) ((q.map paper.bottomRight).x - (q.map paper.topLeft).x)
          ((q.map paper.bottomRight).y - (q.map paper.topLeft).y) r.style.paper).toList ++
      segments.map fun s => .line (q.map s.start) (q.map s.stop)
        (if s.penDown then r.style.draw else r.style.travel))) ∧
    picture.lines.IsChain Op.Joined ∧
    picture.lines.length = stats.drawMoves + stats.travelMoves ∧
    (∀ isDraw : Stroke Float → Bool,
      isDraw r.style.draw = true → isDraw r.style.travel = false →
      picture.lines.countP (Op.isLineWith isDraw) = stats.drawMoves ∧
      picture.lines.countP (Op.isLineWith (!isDraw ·)) = stats.travelMoves) ∧
    r.draw picture = picture := by
  intro picture segments stats
  have hsegments : r.state.toolpath = .ofSegments segments := hsource
  obtain ⟨_, hpath, -⟩ := exists_path_walk (Point.origin : Point Float) (Program.moves source)
  obtain ⟨q, hlines⟩ : ∃ q, picture.lines = _ := exists_lines_draw hsegments d
  obtain ⟨hdraws, htravels⟩ := Toolpath.counts_stats (Toolpath.ofProgram source)
  refine ⟨projector?_eq_none_iff hsegments, ?_, ?_, ?_, ?_, ?_, ?_⟩
  · exact ops_draw_eq_clear_iff hsegments d
  · intro q hq
    show (r.draw d).ops = _
    rw [ops_draw, operations_of_projector hq, hsource]
    rfl
  · rw [hlines]
    exact isChain_segmentOp q hpath
  · rw [hlines, List.length_map, hdraws, htravels,
      List.length_eq_countP_add_countP (fun s : Segment Float => s.penDown)]
    simp only [Bool.not_eq_true, Bool.decide_eq_false]
    rfl
  · intro isDraw hdraw htravel
    have hnot : (!isDraw r.style.draw) = false ∧ (!isDraw r.style.travel) = true := by
      rw [hdraw, htravel]
      exact ⟨rfl, rfl⟩
    rw [hlines, hdraws, htravels, countP_segmentOp q true hdraw htravel,
      countP_segmentOp q false hnot.1 hnot.2]
    simp only [beq_true, beq_false]
    exact ⟨rfl, rfl⟩
  · exact congrArg DisplayList.mk ((r.ops_draw picture).trans (r.ops_draw d).symm)

/-- Two moves and a sheet, drawn over a line that was there before. -/
theorem Renderer.picture_of_program_on_sheet :
    let source := "G0 X10\nG1 Y10"
    let preview := (Preview.new ⟨800, 600⟩).setSource source |>.1
    let r : Renderer Float := .new { preview with paper := some ⟨"A4", 210, 297⟩ }
    let picture := r.draw (⟨[.line ⟨0, 0⟩ ⟨1, 1⟩ r.style.draw]⟩ : DisplayList Float)
    r.state.toolpath = Toolpath.ofProgram source ∧ picture.lines.length = 2 ∧
      picture.lines.IsChain Op.Joined ∧ r.draw picture = picture := by
  intro source preview r picture
  have hsource : r.state.toolpath = Toolpath.ofProgram source := rfl
  obtain ⟨_, _, _, hchain, hlength, _, hagain⟩ := picture_of_program hsource
    ⟨[.line ⟨0, 0⟩ ⟨1, 1⟩ r.style.draw]⟩
  exact ⟨hsource, hlength.trans (by decide), hchain, hagain⟩

end PenPlotter
