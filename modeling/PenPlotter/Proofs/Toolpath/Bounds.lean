import PenPlotter.Proofs.Double.Order
import PenPlotter.Proofs.Plane.Extent
import PenPlotter.Proofs.Toolpath.Path

/-! # The bounds of a program

The bounds of a toolpath are gathered move by move, with comparisons of doubles.  All coordinates of
a program are finite, finite doubles are compared like their places in a linear order
(`Double.ranking`), and so the bounds are the extent of the ends of the moves: nothing lies outside
of them, and no side leaves room (`exact_bounds_ofProgram`). -/

namespace PenPlotter

/-- Finite doubles are numbers, and are compared by their places. -/
def Double.ranking : Ranking Float (ℤ ×ₗ ℤ ×ₗ ℤ) where
  IsNumber x := x.isFinite = true
  rank := Double.rank
  beq_eq := Double.beq_eq
  less_eq hx hy := decide_eq_decide.mpr (Double.lt_iff hx hy)

/-! ### Boxes of doubles -/

namespace Box

/-- The point is in the box. -/
structure Contains (b : Box Float) (p : Point Float) : Prop where
  minX_le : b.minX ≤ p.x
  le_maxX : p.x ≤ b.maxX
  minY_le : b.minY ≤ p.y
  le_maxY : p.y ≤ b.maxY

/-- Each side of the box goes, numerically, through one of the points. -/
structure Touches (b : Box Float) (ps : Set (Point Float)) : Prop where
  minX : ∃ p ∈ ps, (p.x == b.minX) = true
  maxX : ∃ p ∈ ps, (p.x == b.maxX) = true
  minY : ∃ p ∈ ps, (p.y == b.minY) = true
  maxY : ∃ p ∈ ps, (p.y == b.maxY) = true

variable {b : Box Float} {ps : Set (Point Float)}

theorem IsExtent.contains (h : b.IsExtent Double.ranking ps) {p : Point Float} (hp : p ∈ ps)
    (hfinite : p.IsFinite) : b.Contains p where
  minX_le := (Double.le_iff h.minX.isNumber hfinite.x).mpr (h.minX.rank_le ⟨p, hp, rfl⟩)
  le_maxX := (Double.le_iff hfinite.x h.maxX.isNumber).mpr (h.maxX.rank_le ⟨p, hp, rfl⟩)
  minY_le := (Double.le_iff h.minY.isNumber hfinite.y).mpr (h.minY.rank_le ⟨p, hp, rfl⟩)
  le_maxY := (Double.le_iff hfinite.y h.maxY.isNumber).mpr (h.maxY.rank_le ⟨p, hp, rfl⟩)

theorem IsExtent.touches (h : b.IsExtent Double.ranking ps) (hfinite : ∀ p ∈ ps, p.IsFinite) :
    b.Touches ps := by
  have hequal {x y : Float} (hx : x.isFinite = true) (hy : y.isFinite = true)
      (hrank : Double.rank x = Double.rank y) : (x == y) = true := by
    rw [Double.beq_eq hx hy, decide_eq_true hrank]
  constructor
  · obtain ⟨_, ⟨p, hp, rfl⟩, hrank⟩ := h.minX.isLeast.1
    exact ⟨p, hp, hequal (hfinite p hp).x h.minX.isNumber hrank⟩
  · obtain ⟨_, ⟨p, hp, rfl⟩, hrank⟩ := h.maxX.isGreatest.1
    exact ⟨p, hp, hequal (hfinite p hp).x h.maxX.isNumber hrank⟩
  · obtain ⟨_, ⟨p, hp, rfl⟩, hrank⟩ := h.minY.isLeast.1
    exact ⟨p, hp, hequal (hfinite p hp).y h.minY.isNumber hrank⟩
  · obtain ⟨_, ⟨p, hp, rfl⟩, hrank⟩ := h.maxY.isGreatest.1
    exact ⟨p, hp, hequal (hfinite p hp).y h.maxY.isNumber hrank⟩

end Box

/-! ### Programs -/

/-- A path that makes a segment passes through the point where it begins. -/
theorem Path.start_mem_ends {α : Type} [Scalar α] {p q : Point α} {segments : List (Segment α)}
    (h : Path p segments q) (hne : segments ≠ []) : p ∈ Toolpath.ends segments := by
  cases h with
  | nil => exact absurd rfl hne
  | cons => exact ⟨_, List.mem_cons_self, Or.inl rfl⟩

/-- **The bounds of a program are exact.**  There are none if and only if the program makes no
segment.  Otherwise both ends of every segment are in the bounds, each side of the bounds goes
through an end of a segment, and the origin, where the way begins, is in the bounds. -/
theorem exact_bounds_ofProgram (text : String) :
    let t := (Toolpath.ofProgram text : Toolpath Float)
    (t.bounds = none ↔ t.segments = []) ∧
    ∀ b ∈ t.bounds, (∀ p ∈ Toolpath.ends t.segments, b.Contains p) ∧
      b.Touches (Toolpath.ends t.segments) ∧ b.Contains ⟨0, 0⟩ := by
  intro t
  obtain ⟨_, hpath, -⟩ := exists_path_walk (Point.origin : Point Float) (Program.moves text)
  have hfinite : ∀ s ∈ t.segments, s.start.IsFinite ∧ s.stop.IsFinite :=
    finite_walk finite_origin fun m hm => finite_of_mem_moves hm
  have hends : ∀ p ∈ Toolpath.ends t.segments, p.IsFinite := by
    rintro p ⟨s, hs, rfl | rfl⟩
    · exact (hfinite s hs).1
    · exact (hfinite s hs).2
  have hextent : Box.Extent Double.ranking t.bounds (Toolpath.ends t.segments) :=
    Toolpath.extent_bounds fun s hs =>
      ⟨⟨(hfinite s hs).1.x, (hfinite s hs).1.y⟩, (hfinite s hs).2.x, (hfinite s hs).2.y⟩
  have hnone : t.bounds = none ↔ t.segments = [] := Toolpath.bounds_eq_none_iff
  refine ⟨hnone, fun b hb => ?_⟩
  have hne : t.segments ≠ [] := fun hnil => by cases (hnone.mpr hnil).symm.trans hb
  have hb : b.IsExtent Double.ranking (Toolpath.ends t.segments) := hextent.isExtent hb
  exact ⟨fun p hp => hb.contains hp (hends p hp), hb.touches hends,
    hb.contains (hpath.start_mem_ends hne) finite_origin⟩

/-- A void line goes far away, and leaves the bounds as they are. -/
example :
    let t : Toolpath Float := Toolpath.ofProgram "G0 X-2\nG1 X900 Y1..5\nG1 X3 Y-0.5"
    t.bounds.map (fun b => (b.minX, b.maxX, b.minY, b.maxY)) = some (-2, 3, -0.5, 0) := by
  decide +kernel

end PenPlotter
