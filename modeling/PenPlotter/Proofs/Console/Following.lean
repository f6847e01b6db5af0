import Mathlib.Data.List.Induction
import PenPlotter.Proofs.Console.PanelActions
import PenPlotter.Proofs.Double.Order

/-! # Following the end of the log

Whether new entries are followed is decided by the operator's last scroll alone.  The panel keeps a
distance that is also written by entries that are followed, by another log and by an empty one; none
of this is a report of the operator.  `Panel.Reported` is the last report since the log was put in
its place, and `Panel.isNear_act` says what an action makes of the question whether the end is near:
only a report and another log answer it anew, however many entries come in between
(`Panel.follows_last_report`). -/

namespace PenPlotter

namespace Scroll

variable {s : Scroll}

/-- How much of the content lies below the part that is shown, in pixels; nothing, if the difference
is negative or no number. -/
def below (top height content : Float) : Float :=
  let rest := content - top - height
  if rest.isNaN = true ∨ rest < 0.0 then 0.0 else rest

theorem update_eq (s : Scroll) (top height content : Float) :
    s.update top height content = { s with distance := below top height content } := by
  have hzero : Scalar.isNoNumber (0.0 : Float) = false := by decide
  unfold update below Scalar.max
  generalize content - top - height = rest
  have hless : Scalar.less rest 0.0 = decide (rest < 0.0) := rfl
  rw [Double.isNoNumber_eq_isNaN, hzero, hless]
  cases hnan : rest.isNaN with
  | true => simp only [hnan, if_true, true_or]
  | false => simp only [hnan, Bool.false_eq_true, if_false, false_or, decide_eq_true_eq]

theorem action_eq (s : Scroll) : s.action false = if s.isNear then .follow else .stay := by
  rw [action, Bool.false_or]

theorem isNear_pin (h : 0.0 ≤ s.threshold) : s.pin.isNear = true := decide_eq_true h

end Scroll

/-- The distance from the end of the log that an action reports. -/
def PanelAction.report? : PanelAction → Option Float
  | .updateScroll top height content => some (Scroll.below top height content)
  | _ => none

namespace Panel

/-- What an action tells the view to do, if it says anything about it. -/
def answer? (p : Panel) : PanelAction → Option ScrollAction
  | .append e => some (p.append e).2
  | .replace entries => some (p.replace entries).2
  | .apply event entries => (p.apply event entries).2
  | _ => none

/-- The last report among the actions, after which no other log came. -/
def Reported (as : List PanelAction) (distance : Float) : Prop :=
  ∃ earlier a later, as = earlier ++ a :: later ∧ a.report? = some distance ∧
    ∀ b ∈ later, b.report? = none ∧ b.log? = none

section following

variable {p : Panel} {a : PanelAction} {as : List PanelAction} {distance : Float}

/-! ### One action -/

theorem append_snd (p : Panel) (e : Entry) : (p.append e).2 = p.scroll.action false := by
  unfold append
  cases p.scroll.action false <;> rfl

theorem answer?_of_appends {e : Entry} (h : a.entry? = some e) :
    p.answer? a = some (p.scroll.action false) := by
  rw [← append_snd p e]
  unfold PanelAction.entry? at h
  split at h <;> cases h <;> rfl

/-- An entry that is followed leaves the panel at the end, and another one leaves it where it is. -/
theorem scroll_append (p : Panel) (e : Entry) :
    (p.append e).1.scroll = if p.scroll.isNear then p.scroll.pin else p.scroll := by
  unfold append
  rw [Scroll.action_eq]
  cases p.scroll.isNear <;> rfl

theorem isNear_append (h : 0.0 ≤ p.scroll.threshold) (e : Entry) :
    (p.append e).1.scroll.isNear = p.scroll.isNear := by
  rw [scroll_append]
  cases hnear : p.scroll.isNear with
  | false => exact hnear
  | true => exact Scroll.isNear_pin h

theorem scroll_toggle (p : Panel) (i : Nat) : (p.toggle i).1.scroll = p.scroll := by
  rw [toggle_eq]

theorem threshold_act (p : Panel) (a : PanelAction) :
    (p.act a).scroll.threshold = p.scroll.threshold := by
  have happend (e : Entry) : (p.append e).1.scroll.threshold = p.scroll.threshold := by
    rw [scroll_append]
    split <;> rfl
  cases a with
  | append e => exact happend e
  | toggle i => exact congrArg Scroll.threshold (p.scroll_toggle i)
  | apply event entries =>
      cases event with
      | entryAppended e origin => exact happend e
      | _ => rfl
  | _ => rfl

/-- **One action.**  Another log is at its end, a report is compared with the threshold, and nothing
else changes whether the end is near. -/
theorem isNear_act (h : 0.0 ≤ p.scroll.threshold) (a : PanelAction) :
    (p.act a).scroll.isNear = if a.log?.isSome then true
      else (a.report?.map fun distance => decide (distance ≤ p.scroll.threshold)).getD
        p.scroll.isNear := by
  have hpin : p.scroll.pin.isNear = true := Scroll.isNear_pin h
  cases a with
  | append e => exact isNear_append h e
  | replace entries => exact hpin
  | clear => exact hpin
  | toggle i => exact congrArg Scroll.isNear (p.scroll_toggle i)
  | updateScroll top height content =>
      show (p.scroll.update top height content).isNear = _
      rw [Scroll.update_eq]
      rfl
  | apply event entries =>
      cases event with
      | entryAppended e origin => exact isNear_append h e
      | logReloaded count => exact hpin
      | logCleared => exact hpin
      | _ => rfl
  | _ => rfl

/-! ### A run -/

/-- A report counts until there is another one, or another log. -/
theorem reported_concat : Reported (as ++ [a]) distance ↔
    a.report? = some distance ∨ a.report? = none ∧ a.log? = none ∧ Reported as distance := by
  constructor
  · rintro ⟨earlier, b, later, heq, hb, hlater⟩
    rcases List.eq_nil_or_concat later with rfl | ⟨init, c, rfl⟩
    · obtain ⟨-, hlast⟩ := List.append_inj' heq rfl
      rw [List.singleton_inj.mp hlast]
      exact .inl hb
    · rw [List.concat_eq_append, ← List.cons_append, ← List.append_assoc] at heq
      obtain ⟨rfl, hlast⟩ := List.append_inj' heq rfl
      obtain rfl := List.singleton_inj.mp hlast
      rw [List.concat_eq_append, List.forall_mem_append, List.forall_mem_singleton] at hlater
      exact .inr ⟨hlater.2.1, hlater.2.2, earlier, b, init, rfl, hb, hlater.1⟩
  · rintro (ha | ⟨hreport, hlog, earlier, b, later, rfl, hb, hlater⟩)
    · exact ⟨as, a, [], rfl, ha, List.forall_mem_nil _⟩
    · refine ⟨earlier, b, later ++ [a], by simp, hb, ?_⟩
      rw [List.forall_mem_append, List.forall_mem_singleton]
      exact ⟨hlater, hreport, hlog⟩

theorem Reported.unique {other : Float} (h : Reported as distance) (h' : Reported as other) :
    distance = other := by
  induction as using List.reverseRecOn with
  | nil =>
      obtain ⟨earlier, a, later, heq, -⟩ := h
      simp at heq
  | append_singleton as a ih =>
      rw [reported_concat] at h h'
      rcases h with h | ⟨hnone, -, h⟩ <;> rcases h' with h' | ⟨hnone', -, h'⟩
      · exact Option.some.inj (h.symm.trans h')
      · rw [h] at hnone'
        cases hnone'
      · rw [h'] at hnone
        cases hnone
      · exact ih h h'

theorem log?_of_report? (h : a.report? = some distance) : a.log? = none := by
  cases a with
  | updateScroll => rfl
  | _ => cases h

theorem threshold_run (config : PanelConfig) (as : List PanelAction) :
    ((new config).run as).scroll.threshold = config.threshold := by
  have hkept : ∀ q a, q.scroll.threshold = config.threshold →
      (act q a).scroll.threshold = config.threshold :=
    fun q a h => (q.threshold_act a).trans h
  exact run_induction hkept rfl as

/-- **A run.**  The end is near unless the last report says otherwise. -/
theorem isNear_run {config : PanelConfig} (h : 0.0 ≤ config.threshold) (as : List PanelAction) :
    ((new config).run as).scroll.isNear = true ↔
      ∀ distance, Reported as distance → distance ≤ config.threshold := by
  induction as using List.reverseRecOn with
  | nil =>
      have hnone : ∀ distance, ¬ Reported [] distance := by
        rintro distance ⟨earlier, a, later, heq, -⟩
        simp at heq
      exact ⟨fun _ distance hd => absurd hd (hnone distance), fun _ => decide_eq_true h⟩
  | append_singleton as a ih =>
      have hthreshold := threshold_run config as
      rw [run_concat, isNear_act (by rwa [hthreshold]), hthreshold]
      simp only [reported_concat]
      cases hlog : a.log? with
      | some entries =>
          have hreport : a.report? = none := by
            rw [Option.eq_none_iff_forall_ne_some]
            intro distance hd
            rw [log?_of_report? hd] at hlog
            cases hlog
          simp [hreport]
      | none =>
          cases hreport : a.report? with
          | some distance => simp
          | none => simpa using ih

/-- **The operator's last scroll decides.**  For every panel with a threshold of at least zero and
all that was done to it: a new entry is followed if nothing was reported since the log came (it is
empty at first), and if the last distance that was reported since then is at most the threshold;
otherwise the view stays, however many entries came since the report.  Another log is always
followed. -/
theorem follows_last_report (config : PanelConfig) (h : 0.0 ≤ config.threshold)
    (as : List PanelAction) :
    let p := (new config).run as
    (∀ a e, a.entry? = some e →
      ((∀ distance, ¬ Reported as distance) → p.answer? a = some .follow) ∧
      ∀ distance, Reported as distance →
        p.answer? a = some (if distance ≤ config.threshold then .follow else .stay)) ∧
    (∀ entries, p.answer? (.replace entries) = some .follow) ∧
    ∀ count entries, p.answer? (.apply (.logReloaded count) entries) = some .follow := by
  intro p
  have hthreshold : p.scroll.threshold = config.threshold := threshold_run config as
  have hnear : p.scroll.isNear = true ↔
      ∀ distance, Reported as distance → distance ≤ config.threshold := isNear_run h as
  refine ⟨fun a e he => ?_, fun entries => rfl, fun count entries => rfl⟩
  have hanswer : p.answer? a = some (if p.scroll.isNear then .follow else .stay) := by
    rw [answer?_of_appends he, Scroll.action_eq]
  rw [hanswer]
  constructor
  · intro hnone
    rw [hnear.mpr fun distance hd => absurd hd (hnone distance), if_pos rfl]
  · intro distance hd
    have hiff : p.scroll.isNear = true ↔ distance ≤ config.threshold :=
      hnear.trans ⟨fun hall => hall distance hd, fun hle other hother => hd.unique hother ▸ hle⟩
    simp only [hiff]

/-- An operator who has scrolled up stays there while entries come in, and is taken to the end again
by another log. -/
theorem follows_last_report_reading :
    let e : Entry := ⟨"10:00", "G28", "ok"⟩
    let as : List PanelAction :=
      [.append e, .updateScroll 0 100 300, .append e, .nextPage, .append e]
    let p := (new .standard).run as
    (0.0 ≤ PanelConfig.standard.threshold) ∧ Reported as 200 ∧ p.answer? (.append e) = some .stay ∧
      (p.act (.replace [e])).answer? (.append e) = some .follow := by
  intro e as p
  have hthreshold : 0.0 ≤ PanelConfig.standard.threshold := by decide +kernel
  have hreport : Reported as 200 := by
    refine ⟨[.append e], .updateScroll 0 100 300, _, rfl, ?_, ?_⟩
    · decide +kernel
    · simp [PanelAction.report?, PanelAction.log?]
  have hfar : ¬ (200 : Float) ≤ PanelConfig.standard.threshold := by decide +kernel
  obtain ⟨hentry, -⟩ := follows_last_report .standard hthreshold as
  have hstay := (hentry (.append e) e rfl).2 200 hreport
  rw [if_neg hfar] at hstay
  have hnone : ∀ distance, ¬ Reported (as ++ [.replace [e]]) distance := by
    intro distance h
    rw [reported_concat] at h
    simp [PanelAction.report?, PanelAction.log?] at h
  have hback := ((follows_last_report .standard hthreshold (as ++ [.replace [e]])).1
    (.append e) e rfl).1 hnone
  rw [run_concat] at hback
  exact ⟨hthreshold, hreport, hstay, hback⟩

end following

end Panel
end PenPlotter
