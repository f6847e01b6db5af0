import PenPlotter.Proofs.Double.Division
import PenPlotter.Proofs.Json.Written
import PenPlotter.Proofs.Preview.ZoomRange
import PenPlotter.View.Json

/-! # Views that are read

Reading a view asks nothing of its zoom: every three doubles of JSON are those of some view that is
read (`View.exists_ofJsonText?_iff`).  They are finite, but the zoom need not be in the range, and a
zoom of zero divides (`View.not_isFinite_zoomedAt`, `Projector.not_isFinite_unmap`).  So only what
is clamped after reading is a view like those that are made (`View.read_zoom_not_clamped`). -/

namespace PenPlotter

open Json Double

/-! ### Reading and writing -/

section reading

variable {s : String} {t part : Tree} {names : List String} {fields : Fields Tree} {name : String}

theorem Json.isNumber_of_required {x : Float} (hread : Tree.ofString? s = some t)
    (hpart : part.tokens ⊆ t.tokens) (hfields : part.record? names = some fields)
    (h : fields.required name Tree.float? = some x) : IsNumber x := by
  obtain ⟨field, hfield, hfloat⟩ := Option.bind_eq_some_iff.mp h
  have htokens := Tree.tokens_subset_of_record? hfields hfield
  exact isNumber_of_part hread (fun _ hmem => hpart (htokens hmem)) hfloat

theorem Point.isNumber_of_ofTree? {p : Point Float} (hread : Tree.ofString? s = some t)
    (hpart : part.tokens ⊆ t.tokens) (h : Point.ofTree? part = some p) :
    Json.IsNumber p.x ∧ Json.IsNumber p.y := by
  obtain ⟨fields, hfields, h⟩ := Option.bind_eq_some_iff.mp h
  obtain ⟨x, hx, h⟩ := Option.bind_eq_some_iff.mp h
  obtain ⟨y, hy, h⟩ := Option.bind_eq_some_iff.mp h
  cases h
  exact ⟨isNumber_of_required hread hpart hfields hx, isNumber_of_required hread hpart hfields hy⟩

theorem View.isNumber_of_ofJsonText? {v : View Float} (h : View.ofJsonText? s = some v) :
    IsNumber v.zoom ∧ IsNumber v.pan.x ∧ IsNumber v.pan.y := by
  obtain ⟨t, hread, h⟩ := Option.bind_eq_some_iff.mp h
  obtain ⟨fields, hfields, h⟩ := Option.bind_eq_some_iff.mp h
  obtain ⟨zoom, hzoom, h⟩ := Option.bind_eq_some_iff.mp h
  obtain ⟨pan, hpan, h⟩ := Option.bind_eq_some_iff.mp h
  cases h
  obtain ⟨field, hfield, hpoint⟩ := Option.bind_eq_some_iff.mp hpan
  exact ⟨isNumber_of_required hread (List.Subset.refl _) hfields hzoom,
    Point.isNumber_of_ofTree? hread (Tree.tokens_subset_of_record? hfields hfield) hpoint⟩

theorem Point.ofTree?_record {t u : Tree} {x y : Float} (hx : t.float? = some x)
    (hy : u.float? = some y) : Point.ofTree? (Tree.record [("x", t), ("y", u)]) = some ⟨x, y⟩ := by
  obtain ⟨fields, hfields, hget⟩ :=
    Tree.record?_record ["x", "y"] [("x", t), ("y", u)] (by simp) (by simp)
  simp [Point.ofTree?, hfields, Fields.required, hget, hx, hy]

theorem View.ofTree?_record {t u : Tree} {zoom : Float} {pan : Point Float}
    (hzoom : t.float? = some zoom) (hpan : Point.ofTree? u = some pan) :
    View.ofTree? (Tree.record [("zoom", t), ("pan", u)]) = some ⟨zoom, pan⟩ := by
  obtain ⟨fields, hfields, hget⟩ := Tree.record?_record ["zoom", "pan"]
    [("zoom", t), ("pan", u)] (by simp) (by simp)
  simp [View.ofTree?, hfields, Fields.required, hget, hzoom, hpan]

theorem View.ofJsonText?_compact {v : View Float} (hzoom : ReadsBack v.zoom)
    (hx : ReadsBack v.pan.x) (hy : ReadsBack v.pan.y) :
    View.ofJsonText? v.toJson.compact = some v := by
  rw [View.ofJsonText?, ofString?_compact, Option.bind_some]
  exact View.ofTree?_record hzoom.float?_float
    (Point.ofTree?_record hx.float?_float hy.float?_float)

/-- **All views with numbers of JSON are read.** -/
theorem View.exists_ofJsonText?_iff (v : View Float) : (∃ s, View.ofJsonText? s = some v) ↔
    IsNumber v.zoom ∧ IsNumber v.pan.x ∧ IsNumber v.pan.y := by
  constructor
  · rintro ⟨s, h⟩
    exact View.isNumber_of_ofJsonText? h
  · rintro ⟨hzoom, hx, hy⟩
    obtain ⟨cs, n, hcs, hn⟩ := isNumber_iff.mp hzoom
    obtain ⟨ds, m, hds, hm⟩ := isNumber_iff.mp hx
    obtain ⟨es, k, hes, hk⟩ := isNumber_iff.mp hy
    have hpan := scans_pairText (k := "x") (l := "y") (t := .number m) (u := .number k)
      (fun _ => scans_numeral hds) (fun _ => scans_numeral hes)
    have hview := scans_pairText (k := "zoom") (l := "pan") (t := .number n)
      (fun _ => scans_numeral hcs) (fun rest _ => hpan rest) []
    refine ⟨String.ofList (pairText "zoom" cs "pan" (pairText "x" ds "y" es)), ?_⟩
    rw [← String.toList_ofList (l := pairText "zoom" _ _ _)] at hview
    rw [View.ofJsonText?, ofString?_of_scans hview]
    exact View.ofTree?_record hn (Point.ofTree?_record hm hk)

end reading

/-! ### What a zoom does -/

namespace View

theorem clampZoom_of_clamped {v : View Float} (hv : v.Clamped) : clampZoom v.zoom = v.zoom := by
  have hnot {x y : Float} (hx : x.isFinite = true) (hy : y.isFinite = true) (h : x ≤ y) :
      ¬ y < x := by
    rw [lt_iff hy hx]
    exact not_lt.mpr ((le_iff hx hy).mp h)
  have hlow : ¬ Scalar.less v.zoom minZoom = true := fun h =>
    hnot (by decide) hv.finite hv.atLeast (of_decide_eq_true h)
  have hhigh : ¬ Scalar.less maxZoom v.zoom = true := fun h =>
    hnot hv.finite (by decide) hv.atMost (of_decide_eq_true h)
  have hfinite : Scalar.finite v.zoom = true := hv.finite
  rw [clampZoom, if_pos hfinite, Scalar.clamp, if_neg hlow, if_neg hhigh]

theorem beq_zero_of_atLeast {x y : Float} (hx : x.isFinite = true) (h : (0.25 : Float) ≤ x)
    (hy : (y == 0.0) = true) : (x == y) = false := by
  have hzero : (0.0 : Float).isFinite = true := by decide
  have hfinite : y.isFinite = true := by
    obtain ⟨s, hs⟩ := unpack_of_beq_zero hy
    show y.toModel.unpack.isFinite = true
    rw [hs]
    rfl
  rw [beq_eq hfinite hzero, decide_eq_true_eq] at hy
  rw [beq_eq hx hfinite, decide_eq_false_iff_not, hy]
  intro heq
  rw [le_iff (by decide) hx, heq, ← le_iff (by decide) hzero] at h
  exact absurd h (by decide)

/-- The views that clamping leaves alone are the clamped ones. -/
theorem clamped_iff (v : View Float) : v.Clamped ↔ View.new v.zoom v.pan = v := by
  constructor
  · intro hv
    rw [View.new, clampZoom_of_clamped hv]
  · intro h
    rw [← h]
    exact clamped_new _ _

theorem Clamped.beq_zero {v : View Float} (hv : v.Clamped) : (v.zoom == 0.0) = false :=
  beq_zero_of_atLeast hv.finite hv.atLeast (by decide)

theorem not_isFinite_zoomedAt {v : View Float} (hv : (v.zoom == 0.0) = true) (cursor : Point Float)
    (factor : Float) : (v.zoomedAt cursor factor).pan.x.isFinite = false ∧
      (v.zoomedAt cursor factor).pan.y.isFinite = false := by
  obtain ⟨hfinite, hlow, -⟩ := mem_clampZoom (v.zoom * factor)
  have hchanged := beq_zero_of_atLeast hfinite hlow hv
  unfold zoomedAt
  dsimp only
  rw [if_neg (Bool.eq_false_iff.mp hchanged)]
  exact ⟨not_isFinite_sub _ (not_isFinite_mul (not_isFinite_div _ (.inl hv)) _),
    not_isFinite_sub _ (not_isFinite_mul (not_isFinite_div _ (.inl hv)) _)⟩

end View

theorem Projector.not_isFinite_unmap {v : View Float} (hv : (v.zoom == 0.0) = true)
    (box : Box Float) (viewport : Viewport Float) (padding : Float) (point : Point Float) :
    let model := (Projector.fit box viewport v padding).unmap point
    model.x.isFinite = false ∧ model.y.isFinite = false := by
  intro model
  have hscale := mul_zero_cases (Projector.fit box viewport v padding).baseScale hv
  exact ⟨not_isFinite_add _ (not_isFinite_div _ hscale),
    not_isFinite_sub _ (not_isFinite_div _ hscale)⟩

namespace View

/-- **A view is read with the zoom that is written.**  What is read from some text are all views
whose three numbers are those of JSON.  They are finite, but nothing keeps the zoom in its range: a
view that is read is clamped only if clamping changes nothing.  Then the zoom is not zero, and
zooming stays in the range; with a zoom of zero, each step of zoom and each way back from the screen
divides by zero. -/
theorem read_zoom_not_clamped (v : View Float) :
    ((∃ s, ofJsonText? s = some v) ↔ IsNumber v.zoom ∧ IsNumber v.pan.x ∧ IsNumber v.pan.y) ∧
    ∀ s, ofJsonText? s = some v →
      (v.zoom.isFinite = true ∧ v.pan.x.isFinite = true ∧ v.pan.y.isFinite = true) ∧
      (v.Clamped ↔ View.new v.zoom v.pan = v) ∧
      (v.Clamped → (v.zoom == 0.0) = false ∧
        ∀ cursor factor, (v.zoomedAt cursor factor).Clamped) ∧
      ((v.zoom == 0.0) = true →
        (∀ cursor factor, (v.zoomedAt cursor factor).pan.x.isFinite = false ∧
          (v.zoomedAt cursor factor).pan.y.isFinite = false) ∧
        ∀ box viewport padding point,
          ((Projector.fit box viewport v padding).unmap point).x.isFinite = false ∧
          ((Projector.fit box viewport v padding).unmap point).y.isFinite = false) := by
  refine ⟨v.exists_ofJsonText?_iff, fun s hs => ⟨?_, v.clamped_iff, ?_, ?_⟩⟩
  · obtain ⟨hzoom, hx, hy⟩ := isNumber_of_ofJsonText? hs
    exact ⟨hzoom.isFinite, hx.isFinite, hy.isFinite⟩
  · exact fun hv => ⟨hv.beq_zero, clamped_zoomedAt hv⟩
  · exact fun hv => ⟨not_isFinite_zoomedAt hv, Projector.not_isFinite_unmap hv⟩

/-- Of a view that is read at a zoom of two and one that is read at none, only the first is clamped
and stays so. -/
theorem read_zoom_not_clamped_two_zero :
    let near : View Float := ⟨2.0, ⟨30.0, -20.0⟩⟩
    let flat : View Float := ⟨0.0, ⟨30.0, -20.0⟩⟩
    near.Clamped ∧ ofJsonText? near.toJson.compact = some near ∧
      (∀ cursor factor, (near.zoomedAt cursor factor).Clamped) ∧
    (flat.zoom == 0.0) = true ∧ ofJsonText? flat.toJson.compact = some flat ∧
      ∀ cursor factor, (flat.zoomedAt cursor factor).pan.x.isFinite = false := by
  have hnear : (⟨2.0, ⟨30.0, -20.0⟩⟩ : View Float).Clamped :=
    ⟨by decide, by decide, by decide⟩
  have hreadNear := ofJsonText?_compact (v := ⟨2.0, ⟨30.0, -20.0⟩⟩) (by rfl) (by rfl) (by rfl)
  have hreadFlat := ofJsonText?_compact (v := ⟨0.0, ⟨30.0, -20.0⟩⟩) (by rfl) (by rfl) (by rfl)
  have hflat : ((0.0 : Float) == 0.0) = true := by decide
  obtain ⟨-, -, hclamped, -⟩ := (read_zoom_not_clamped _).2 _ hreadNear
  obtain ⟨-, -, -, hzero⟩ := (read_zoom_not_clamped _).2 _ hreadFlat
  exact ⟨hnear, hreadNear, (hclamped hnear).2, hflat, hreadFlat, fun cursor factor =>
    ((hzero hflat).1 cursor factor).1⟩

/-- A zoom of zero is read as it stands.  Doubling it then scrolls to nowhere, and no place of the
screen shows a point of the plane. -/
theorem zero_zoom_is_read :
    ∃ v, ofJsonText? "\x7b\"zoom\":0.0,\"pan\":\x7b\"x\":30.0,\"y\":-20.0\x7d\x7d" = some v ∧
      ¬ v.Clamped ∧ (v.zoomedAt ⟨0.0, 0.0⟩ 2.0).pan.x.isFinite = false ∧
      ((Projector.fit ⟨0.0, 210.0, 0.0, 297.0⟩ ⟨800.0, 600.0⟩ v 20.0).unmap
        ⟨400.0, 300.0⟩).x.isFinite = false := by
  have htext : "\x7b\"zoom\":0.0,\"pan\":\x7b\"x\":30.0,\"y\":-20.0\x7d\x7d" =
      (toJson ⟨0.0, ⟨30.0, -20.0⟩⟩).compact := by decide
  refine ⟨⟨0.0, ⟨30.0, -20.0⟩⟩, ?_, ?_, by decide +kernel, by decide +kernel⟩
  · rw [htext]
    exact ofJsonText?_compact rfl rfl rfl
  · intro hclamped
    exact absurd hclamped.atLeast (by decide)

end View
end PenPlotter
