import Mathlib.Order.Bounds.Basic
import PenPlotter.Toolpath.Basic

/-! # Extents of points

A box is the extent of points (`Box.IsExtent`) if it holds them all and each of its sides goes
through one of them.  Boxes are made by comparing scalars, of which some may be no numbers; so the
comparisons are read through a `Ranking`, which gives the numbers their places in a linear order.

Two boxes are joined to the extent of the points of both (`Box.IsExtent.union`), and to insert a
point is to join the box of that point alone.  By induction the bounds of a toolpath are the extent
of the ends of its moves (`Toolpath.extent_bounds`); there are no bounds only if there is no move
(`Toolpath.bounds_eq_none_iff`). -/

namespace PenPlotter

/-! ### Rankings -/

/-- The places of the numbers of a scalar type in a linear order, by which they are compared. -/
structure Ranking (α R : Type) [Scalar α] [LinearOrder R] where
  IsNumber : α → Prop
  rank : α → R
  beq_eq {a b : α} (ha : IsNumber a) (hb : IsNumber b) : (a == b) = decide (rank a = rank b)
  less_eq {a b : α} (ha : IsNumber a) (hb : IsNumber b) :
    Scalar.less a b = decide (rank a < rank b)

variable {α R : Type} [Scalar α] [LinearOrder R] (ρ : Ranking α R)

namespace Ranking

variable {a b : α} {s t : Set α}

theorem isNoNumber_eq (ha : ρ.IsNumber a) : Scalar.isNoNumber a = false := by
  rw [Scalar.isNoNumber, ρ.beq_eq ha ha, decide_eq_true rfl, Bool.not_true]

/-- The smaller one of two numbers is one of them, at the smaller one of their places. -/
theorem min_spec (ha : ρ.IsNumber a) (hb : ρ.IsNumber b) :
    ρ.IsNumber (Scalar.min a b) ∧ ρ.rank (Scalar.min a b) = min (ρ.rank a) (ρ.rank b) := by
  have hmin : Scalar.min a b = if ρ.rank b < ρ.rank a then b else a := by
    simp only [Scalar.min, ρ.isNoNumber_eq ha, ρ.isNoNumber_eq hb, ρ.less_eq hb ha,
      Bool.false_eq_true, if_false, decide_eq_true_iff]
  rw [hmin]
  split
  case isTrue h => exact ⟨hb, (min_eq_right h.le).symm⟩
  case isFalse h => exact ⟨ha, (min_eq_left (not_lt.mp h)).symm⟩

theorem max_spec (ha : ρ.IsNumber a) (hb : ρ.IsNumber b) :
    ρ.IsNumber (Scalar.max a b) ∧ ρ.rank (Scalar.max a b) = max (ρ.rank a) (ρ.rank b) := by
  have hmax : Scalar.max a b = if ρ.rank a < ρ.rank b then b else a := by
    simp only [Scalar.max, ρ.isNoNumber_eq ha, ρ.isNoNumber_eq hb, ρ.less_eq ha hb,
      Bool.false_eq_true, if_false, decide_eq_true_iff]
  rw [hmax]
  split
  case isTrue h => exact ⟨hb, (max_eq_right h.le).symm⟩
  case isFalse h => exact ⟨ha, (max_eq_left (not_lt.mp h)).symm⟩

/-- A number at the least place of some scalars. -/
structure Least (s : Set α) (a : α) : Prop where
  isNumber : ρ.IsNumber a
  isLeast : IsLeast (ρ.rank '' s) (ρ.rank a)

/-- A number at the greatest place of some scalars. -/
structure Greatest (s : Set α) (a : α) : Prop where
  isNumber : ρ.IsNumber a
  isGreatest : IsGreatest (ρ.rank '' s) (ρ.rank a)

variable {ρ}

theorem Least.rank_le (h : ρ.Least s a) (hb : b ∈ s) : ρ.rank a ≤ ρ.rank b :=
  h.isLeast.2 (Set.mem_image_of_mem _ hb)

theorem Greatest.rank_le (h : ρ.Greatest s a) (hb : b ∈ s) : ρ.rank b ≤ ρ.rank a :=
  h.isGreatest.2 (Set.mem_image_of_mem _ hb)

theorem least_singleton (ha : ρ.IsNumber a) : ρ.Least {a} a :=
  ⟨ha, by rw [Set.image_singleton]; exact isLeast_singleton⟩

theorem greatest_singleton (ha : ρ.IsNumber a) : ρ.Greatest {a} a :=
  ⟨ha, by rw [Set.image_singleton]; exact isGreatest_singleton⟩

theorem Least.union (ha : ρ.Least s a) (hb : ρ.Least t b) : ρ.Least (s ∪ t) (Scalar.min a b) := by
  obtain ⟨hnumber, hrank⟩ := ρ.min_spec ha.isNumber hb.isNumber
  refine ⟨hnumber, ?_⟩
  rw [hrank, Set.image_union]
  exact ha.isLeast.union hb.isLeast

theorem Greatest.union (ha : ρ.Greatest s a) (hb : ρ.Greatest t b) :
    ρ.Greatest (s ∪ t) (Scalar.max a b) := by
  obtain ⟨hnumber, hrank⟩ := ρ.max_spec ha.isNumber hb.isNumber
  refine ⟨hnumber, ?_⟩
  rw [hrank, Set.image_union]
  exact ha.isGreatest.union hb.isGreatest

end Ranking

/-! ### Boxes -/

def Point.IsNumber (p : Point α) : Prop := ρ.IsNumber p.x ∧ ρ.IsNumber p.y

namespace Box

/-- The box holds the points, and each of its sides goes through one of them. -/
structure IsExtent (b : Box α) (ps : Set (Point α)) : Prop where
  minX : ρ.Least (Point.x '' ps) b.minX
  maxX : ρ.Greatest (Point.x '' ps) b.maxX
  minY : ρ.Least (Point.y '' ps) b.minY
  maxY : ρ.Greatest (Point.y '' ps) b.maxY

/-- Points with their extent, which they have if there are any. -/
inductive Extent : Option (Box α) → Set (Point α) → Prop
  | none : Extent none ∅
  | some {b : Box α} {ps : Set (Point α)} (h : b.IsExtent ρ ps) : Extent (some b) ps

variable {ρ} {a b : Box α} {ps qs : Set (Point α)} {p : Point α}

theorem isExtent_single (hp : p.IsNumber ρ) : (single p).IsExtent ρ {p} := by
  constructor <;> rw [Set.image_singleton]
  · exact Ranking.least_singleton hp.1
  · exact Ranking.greatest_singleton hp.1
  · exact Ranking.least_singleton hp.2
  · exact Ranking.greatest_singleton hp.2

theorem IsExtent.union (ha : a.IsExtent ρ ps) (hb : b.IsExtent ρ qs) :
    (a.union b).IsExtent ρ (ps ∪ qs) := by
  constructor <;> rw [Set.image_union]
  · exact ha.minX.union hb.minX
  · exact ha.maxX.union hb.maxX
  · exact ha.minY.union hb.minY
  · exact ha.maxY.union hb.maxY

/-- To insert a point is to join the box of that point alone. -/
theorem IsExtent.insert (hb : b.IsExtent ρ ps) (hp : p.IsNumber ρ) :
    (b.insert p).IsExtent ρ (ps ∪ {p}) := hb.union (isExtent_single hp)

theorem Extent.isExtent {b? : Option (Box α)} (h : Extent ρ b? ps) (hb : b ∈ b?) :
    b.IsExtent ρ ps := by
  cases h with
  | none => cases hb
  | some h => exact Option.some.inj hb ▸ h

end Box

/-! ### Toolpaths -/

namespace Toolpath

theorem bounds_eq_none_iff {segments : List (Segment α)} :
    (ofSegments segments).bounds = none ↔ segments = [] := by
  have hsome (rest : List (Segment α)) (b : Box α) :
      rest.foldl extend (some b) ≠ none := by
    induction rest generalizing b with
    | nil => nofun
    | cons s rest ih => exact ih _
  cases segments with
  | nil => exact iff_of_true rfl rfl
  | cons s rest => exact iff_of_false (hsome rest _) (List.cons_ne_nil s rest)

/-- The points where moves start and stop. -/
def ends (segments : List (Segment α)) : Set (Point α) :=
  {p | ∃ s ∈ segments, p = s.start ∨ p = s.stop}

omit [Scalar α] in
theorem ends_cons (s : Segment α) (rest : List (Segment α)) :
    ends (s :: rest) = {s.start, s.stop} ∪ ends rest := by
  ext p
  simp [ends]

variable {ρ} {b : Option (Box α)} {ps : Set (Point α)} {segments : List (Segment α)}

/-- The first move starts with the box of its start; every move adds both of its ends. -/
theorem extent_extend (h : Box.Extent ρ b ps) {s : Segment α} (hstart : s.start.IsNumber ρ)
    (hstop : s.stop.IsNumber ρ) : Box.Extent ρ (extend b s) (ps ∪ {s.start, s.stop}) := by
  cases h with
  | none =>
      have hone := ((Box.isExtent_single hstart).insert hstart).insert hstop
      rw [Set.union_self] at hone
      rw [Set.empty_union]
      exact .some hone
  | some h =>
      have hadd := (h.insert hstart).insert hstop
      rw [Set.union_assoc] at hadd
      exact .some hadd

theorem extent_foldl (h : Box.Extent ρ b ps)
    (hnumber : ∀ s ∈ segments, s.start.IsNumber ρ ∧ s.stop.IsNumber ρ) :
    Box.Extent ρ (segments.foldl extend b) (ps ∪ ends segments) := by
  induction segments generalizing b ps with
  | nil => simpa [ends] using h
  | cons s rest ih =>
      rw [List.forall_mem_cons] at hnumber
      have hrest := ih (extent_extend h hnumber.1.1 hnumber.1.2) hnumber.2
      rwa [Set.union_assoc, ← ends_cons] at hrest

/-- **The bounds of a toolpath** are the extent of the ends of its moves. -/
theorem extent_bounds (hnumber : ∀ s ∈ segments, s.start.IsNumber ρ ∧ s.stop.IsNumber ρ) :
    Box.Extent ρ (ofSegments segments).bounds (ends segments) := by
  have h : Box.Extent ρ (segments.foldl extend none) (∅ ∪ ends segments) :=
    extent_foldl .none hnumber
  rwa [Set.empty_union] at h

end Toolpath
end PenPlotter
