import PenPlotter.Proofs.Plane.ZoomAtPoint
import PenPlotter.Proofs.Preview.Observers

/-! # Drags

A drag begins where the pointer goes down and ends when it goes up, leaves the screen or is
cancelled; no other action begins or ends one (`PlotAction.grip?`).  So the latest one of these
four says whether there is a drag (`Renderer.isDragging_run`).

The offset that is taken at the beginning stays the same until the end
(`Renderer.drag_run_pointerDown`), whatever is done to the view meanwhile, and so each move sets the
pan of the beginning, displaced as far as the pointer is from where it went down.  This and what
gestures answer is in `Renderer.drag_follows_pointer`. -/

namespace PenPlotter

namespace PlotAction

/-- Whether there is a drag after an action that begins or ends one. -/
def grip? {α : Type} : PlotAction α → Option Bool
  | .pointerDown _ => some true
  | .pointerUp _ => some false
  | .pointerLeave => some false
  | .cancelGesture => some false
  | _ => none

/-- The zoom of a view that is set is in the range. -/
def InRange : PlotAction Rat → Prop
  | .setView view => view.InRange
  | _ => True

end PlotAction

namespace Renderer

/-! ### The end of a drag -/

section endDrag

variable {α : Type} (r : Renderer α)

theorem isDragging_endDrag : r.endDrag.1.isDragging = false := by
  unfold endDrag
  split
  case isTrue => rfl
  case isFalse h => exact Bool.eq_false_iff.mpr h

theorem endDrag_eq_consumed_iff : r.endDrag.2 = .consumed ↔ r.isDragging = true := by
  unfold endDrag
  split
  case isTrue h => exact ⟨fun _ => h, fun _ => rfl⟩
  case isFalse h => exact ⟨nofun, fun hdrag => absurd hdrag h⟩

end endDrag

/-! ### The course of a drag -/

section course

variable {α : Type} [Scalar α] {r : Renderer α} {a : PlotAction α}

/-- The offset stays the same until the pointer goes down again or the drag ends. -/
theorem drag_perform (h : a.grip? = none) : (r.perform a).1.drag = r.drag := by
  cases a with
  | pointerDown | pointerUp | pointerLeave | cancelGesture => cases h
  | pointerMove point =>
      simp only [perform, pointerMove]
      split <;> rfl
  | wheel point delta =>
      simp only [perform, wheel]
      split <;> rfl
  | _ => rfl

theorem isDragging_perform (r : Renderer α) (a : PlotAction α) :
    (r.perform a).1.isDragging = a.grip?.getD r.isDragging := by
  cases hgrip : a.grip? with
  | none => exact congrArg Option.isSome (drag_perform hgrip)
  | some held =>
      cases a with
      | pointerDown | cancelGesture =>
          cases hgrip
          rfl
      | pointerUp | pointerLeave =>
          cases hgrip
          exact r.isDragging_endDrag
      | _ => cases hgrip

/-- The latest action that begins or ends a drag says whether there is one. -/
theorem isDragging_run (r : Renderer α) (actions : List (PlotAction α)) :
    (r.run actions).1.isDragging =
      (actions.filterMap PlotAction.grip?).getLast?.getD r.isDragging := by
  induction actions using List.reverseRecOn with
  | nil => rfl
  | append_singleton actions a ih =>
      rw [run_concat, isDragging_perform, ih, List.filterMap_append]
      cases hgrip : a.grip? <;> simp [hgrip]

theorem run_append (r : Renderer α) (before after : List (PlotAction α)) :
    (r.run (before ++ after)).1 = ((r.run before).1.run after).1 := by
  induction after using List.reverseRecOn with
  | nil =>
      rw [List.append_nil]
      rfl
  | append_singleton after a ih => rw [← List.append_assoc, run_concat, run_concat, ih]

theorem drag_run {actions : List (PlotAction α)} (h : ∀ a ∈ actions, a.grip? = none) :
    (r.run actions).1.drag = r.drag := by
  induction actions using List.reverseRecOn with
  | nil => rfl
  | append_singleton actions a ih =>
      rw [List.forall_mem_append, List.forall_mem_singleton] at h
      rw [run_concat, drag_perform h.2, ih h.1]

/-- During a drag the offset is the one that was taken when the pointer went down. -/
theorem drag_run_pointerDown (r : Renderer α) (before : List (PlotAction α)) (start : Point α)
    {after : List (PlotAction α)} (h : ∀ a ∈ after, a.grip? = none) :
    let pan := (r.run before).1.state.view.pan
    (r.run (before ++ .pointerDown start :: after)).1.drag =
      some ⟨start.x - pan.x, start.y - pan.y⟩ := by
  intro pan
  rw [List.append_cons, run_append, drag_run h, run_concat]
  rfl

theorem pointerMove_of_not_dragging (h : r.isDragging = false) (point : Point α) :
    r.pointerMove point = (r, none, .ignored) := by
  have hdrag : r.drag = none := Option.isNone_iff_eq_none.mp (Option.isSome_eq_false_iff.mp h)
  unfold pointerMove
  rw [hdrag]

end course

/-! ### Moves without rounding -/

section exact

variable {r : Renderer Rat} {a : PlotAction Rat} {actions : List (PlotAction Rat)}

theorem pointerMove_of_drag {offset : Point Rat} (h : r.drag = some offset) (point : Point Rat) :
    (r.pointerMove point).1 = r.withView (View.new r.state.view.zoom
      ⟨point.x - offset.x, point.y - offset.y⟩) ∧ (r.pointerMove point).2.2 = .consumed := by
  obtain ⟨state, style, drag⟩ := r
  obtain rfl : drag = some offset := h
  refine ⟨?_, rfl⟩
  simp only [pointerMove, change, Preview.setPan, Preview.setView_fst]
  rfl

theorem inRange_perform (hr : r.state.view.InRange) (ha : a.InRange) :
    (r.perform a).1.state.view.InRange := by
  have hstep := r.viewStep_perform a
  generalize (r.perform a).1.state.view = view at hstep ⊢
  cases hstep with
  | kept => exact hr
  | set view => exact ha
  | reset => exact ⟨by decide +kernel, by decide +kernel⟩
  | panned _ pan => exact View.inRange_clampZoom _ pan
  | zoomed _ cursor factor => exact (View.anchored_zoomedAt hr cursor factor).inRange

theorem inRange_run (hr : r.state.view.InRange) (h : ∀ a ∈ actions, a.InRange) :
    (r.run actions).1.state.view.InRange := by
  induction actions using List.reverseRecOn with
  | nil => exact hr
  | append_singleton actions a ih =>
      rw [List.forall_mem_append, List.forall_mem_singleton] at h
      rw [run_concat]
      exact inRange_perform (ih h.1) h.2

/-- **A drag follows the pointer.**  For every renderer and after all sequences of actions there is
a drag exactly if the pointer's going down is the latest of the actions that begin or end one (or if
there was a drag before, and none of them).  A move during a drag is consumed and keeps the zoom, if
all views had a zoom in the range; it sets the pan that there was when the pointer went down,
displaced as far as the pointer is from there, whatever was done meanwhile.  A move without a drag
is ignored, changes nothing and is not told.  That the pointer goes up or leaves is consumed exactly
if it ends a drag, and changes nothing else. -/
theorem drag_follows_pointer (r : Renderer Rat) (actions : List (PlotAction Rat)) :
    let r' := (r.run actions).1
    r'.isDragging = (actions.filterMap PlotAction.grip?).getLast?.getD r.isDragging ∧
    (r'.isDragging = true → ∀ point, (r'.pointerMove point).2.2 = .consumed ∧
      (r'.pointerMove point).1.state.view.zoom = View.clampZoom r'.state.view.zoom ∧
      (r.state.view.InRange → (∀ a ∈ actions, a.InRange) →
        (r'.pointerMove point).1.state.view.zoom = r'.state.view.zoom)) ∧
    (∀ before start after, actions = before ++ .pointerDown start :: after →
      (∀ a ∈ after, a.grip? = none) →
      let pan := (r.run before).1.state.view.pan
      ∀ point, (r'.pointerMove point).1.state.view.pan =
        ⟨pan.x + (point.x - start.x), pan.y + (point.y - start.y)⟩) ∧
    (r'.isDragging = false → ∀ point, r'.pointerMove point = (r', none, .ignored)) ∧
    ∀ point, ∀ ended ∈ [r'.pointerUp point, r'.pointerLeave],
      (ended.2 = .consumed ↔ r'.isDragging = true) ∧ ended.1.isDragging = false ∧
        ended.1.state = r'.state := by
  intro r'
  refine ⟨r.isDragging_run actions, ?_, ?_, pointerMove_of_not_dragging, ?_⟩
  · intro hdragging point
    obtain ⟨offset, hdrag⟩ := Option.isSome_iff_exists.mp hdragging
    obtain ⟨hmove, hconsumed⟩ := pointerMove_of_drag hdrag point
    have hzoom : (r'.pointerMove point).1.state.view.zoom = View.clampZoom r'.state.view.zoom := by
      rw [hmove]
      rfl
    refine ⟨hconsumed, hzoom, fun hr hactions => ?_⟩
    rw [hzoom, View.clampZoom_of_inRange (inRange_run hr hactions)]
  · rintro before start after rfl hafter pan point
    have hdrag := r.drag_run_pointerDown before start hafter
    have hpan (a b c : Rat) : a - (b - c) = c + (a - b) := by ring
    rw [(pointerMove_of_drag hdrag point).1]
    exact congrArg₂ Point.mk (hpan _ _ _) (hpan _ _ _)
  · intro point ended hended
    have heq : ended = r'.endDrag := by
      rcases List.mem_pair.mp hended with h | h <;> exact h
    rw [heq]
    exact ⟨r'.endDrag_eq_consumed_iff, r'.isDragging_endDrag, r'.state_endDrag⟩

/-- A drag during which the wheel turns, the pointer moves and the pan is set: the next move goes by
the pan of the beginning all the same. -/
theorem drag_follows_pointer_after_wheel :
    let r : Renderer Rat := Renderer.new (Preview.new ⟨800, 600⟩)
    let before : List (PlotAction Rat) := [.setView ⟨2, ⟨10, 5⟩⟩]
    let after : List (PlotAction Rat) :=
      [.wheel ⟨300, 200⟩ (-1), .pointerMove ⟨120, 110⟩, .setPan ⟨0, 0⟩]
    let actions := before ++ .pointerDown ⟨100, 100⟩ :: after
    let r' := (r.run actions).1
    let moved := r'.pointerMove ⟨130, 90⟩
    (∀ a ∈ after, a.grip? = none) ∧ (∀ a ∈ actions, a.InRange) ∧ r'.isDragging = true ∧
      moved.2.2 = .consumed ∧ moved.1.state.view.zoom = r'.state.view.zoom ∧
      moved.1.state.view.pan = ⟨40, -5⟩ ∧ r'.pointerLeave.2 = .consumed := by
  intro r before after actions r' moved
  have hafter : ∀ a ∈ after, a.grip? = none := by simp [after, PlotAction.grip?]
  have hactions : ∀ a ∈ actions, a.InRange := by
    have hset : (⟨2, ⟨10, 5⟩⟩ : View Rat).InRange := ⟨by norm_num, by norm_num⟩
    simpa [actions, before, after, PlotAction.InRange] using hset
  obtain ⟨hactive, hmoves, hpan, -, hends⟩ := drag_follows_pointer r actions
  have hdragging : r'.isDragging = true := hactive
  obtain ⟨hconsumed, -, hzoom⟩ := hmoves hdragging ⟨130, 90⟩
  have hhome : r.state.view.InRange := ⟨by decide +kernel, by decide +kernel⟩
  have hmoved := hpan before ⟨100, 100⟩ after rfl hafter ⟨130, 90⟩
  have hstart : (r.run before).1.state.view.pan = ⟨10, 5⟩ :=
    congrArg (·.view.pan) (Preview.setView_fst (Preview.new ⟨800, 600⟩) ⟨2, ⟨10, 5⟩⟩)
  refine ⟨hafter, hactions, hdragging, hconsumed, hzoom hhome hactions, ?_,
    (hends ⟨0, 0⟩ r'.pointerLeave (by simp [r'])).1.mpr hdragging⟩
  rw [hmoved, hstart]
  norm_num

end exact

end Renderer
end PenPlotter
