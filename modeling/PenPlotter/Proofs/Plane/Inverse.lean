import PenPlotter.Proofs.Plane.Exact

/-! # Screen and model

A projector takes the points of the model to the screen one to one.  What is fitted has a least
span, the screen between the paddings a least extent and the zoom a least factor; so the scale is
positive, however small the drawing and the screen are, and what divides by it undoes what
multiplied by it (`Projector.inverse_of_zoom_in_range`). -/

namespace PenPlotter
namespace Projector

theorem unmap_map {p : Projector Rat} (h : p.scale ≠ 0) (m : Point Rat) :
    p.unmap (p.map m) = m := by
  rw [unmap_rat, map_rat]
  congr 1 <;> field_simp <;> ring

/-- **Screen and model coordinates are inverse to each other.**  There is a projector unless there
is nothing to show.  If the zoom is in its range, the scale is positive and each direction of the
projector undoes the other one, whatever the drawing, the sheet, the screen and the padding are. -/
theorem inverse_of_zoom_in_range (bounds : Option (Box Rat)) (sheet : Option (Sheet Rat))
    (viewport : Viewport Rat) {view : View Rat} (padding : Rat) (hview : view.InRange) :
    (new? bounds sheet viewport view padding = none ↔ bounds = none ∧ sheet = none) ∧
      ∀ q, new? bounds sheet viewport view padding = some q →
        0 < q.scale ∧ (∀ m, q.unmap (q.map m) = m) ∧ ∀ s, q.map (q.unmap s) = s := by
  refine ⟨new?_eq_none_iff bounds sheet viewport view padding, fun q hq => ?_⟩
  obtain ⟨box, -, rfl⟩ := Option.map_eq_some_iff.mp hq
  have hscale := scale_fit_pos box viewport padding hview
  exact ⟨hscale, unmap_map hscale.ne', map_unmap hscale.ne'⟩

/-- A drawing of one point and a sheet without sides, on a screen that is narrower than nothing and
lower than its paddings, at the least zoom. -/
theorem inverse_of_zoom_in_range_degenerate :
    let view : View Rat := ⟨1 / 4, ⟨7, -2⟩⟩
    let q := fit ⟨3, 3, 3, 3⟩ ⟨-10, 30⟩ view 20
    view.InRange ∧ new? (some (.single ⟨3, 3⟩)) none ⟨-10, 30⟩ view 20 = some q ∧ 0 < q.scale ∧
      q.unmap (q.map ⟨5, -8⟩) = ⟨5, -8⟩ ∧ q.map (q.unmap ⟨400, 300⟩) = ⟨400, 300⟩ ∧
      ∃ q', new? none (some ⟨0, 0⟩) ⟨-10, 30⟩ view 20 = some q' ∧ 0 < q'.scale ∧
        q'.map (q'.unmap ⟨400, 300⟩) = ⟨400, 300⟩ := by
  intro view q
  have hview : view.InRange := ⟨by norm_num [view], by norm_num [view]⟩
  have hpoint : new? (some (.single ⟨3, 3⟩)) none ⟨-10, 30⟩ view 20 = some q := rfl
  obtain ⟨hscale, hmodel, hscreen⟩ := (inverse_of_zoom_in_range _ _ _ _ hview).2 q hpoint
  obtain ⟨hscale', -, hscreen'⟩ :=
    (inverse_of_zoom_in_range none (some ⟨0, 0⟩) ⟨-10, 30⟩ 20 hview).2 _ rfl
  exact ⟨hview, hpoint, hscale, hmodel _, hscreen _, _, rfl, hscale', hscreen' _⟩

end Projector
end PenPlotter
