import PenPlotter.Proofs.Console.Paging
import Mathlib.Algebra.Group.Nat.Even
import Mathlib.Data.List.Induction

/-! # Long responses

A text is cut if it has more characters than are kept (`isSome_cut?_iff`), between two characters
(`splits_cut?`).  Each toggle of a long response turns over whether it is expanded
(`isExpanded_run`), from the action on by which its entry came into the panel (`Panel.Since`), so
what is shown of it is decided by how many they were (`displayed_of_run`). -/

namespace PenPlotter

/-! ### Cutting a text -/

section cutting

variable {text : String} {limit : ℕ}

theorem nextn_eq_endPos_iff : text.startPos.nextn limit = text.endPos ↔ text.length ≤ limit := by
  rw [(String.splits_nextn_startPos text limit).eq_endPos_iff, ← String.ofList_nil,
    String.ofList_inj, List.drop_eq_nil_iff, String.length_toList]

theorem isSome_cut?_iff : (cut? text limit).isSome = true ↔ limit < text.length := by
  rw [cut?, ← not_le, ← nextn_eq_endPos_iff]
  split <;> simp_all

/-- A text is cut between its first characters and the others. -/
theorem splits_cut? {place : text.Pos} (h : cut? text limit = some place) : place.Splits
    (String.ofList (text.toList.take limit)) (String.ofList (text.toList.drop limit)) := by
  unfold cut? at h
  dsimp only at h
  split at h
  · cases h
  · cases h
    exact String.splits_nextn_startPos text limit

theorem toByteArray_cut? {place : text.Pos} (h : cut? text limit = some place) :
    (String.ofList (text.toList.take limit)).toByteArray =
      text.toByteArray.extract 0 place.offset.byteIdx :=
  (splits_cut? h).toByteArray_eq_left

theorem truncated_of_lt (h : limit < text.length) :
    truncated text limit = String.ofList (text.toList.take limit) ++ "…" := by
  obtain ⟨place, hplace⟩ := Option.isSome_iff_exists.mp (isSome_cut?_iff.mpr h)
  rw [truncated, hplace]
  show (text.sliceTo place).copy ++ "…" = _
  rw [(splits_cut? hplace).copy_sliceTo_eq]

theorem truncated_of_le (h : text.length ≤ limit) : truncated text limit = text := by
  have hnone : cut? text limit = none := by
    rw [← Option.not_isSome_iff_eq_none, isSome_cut?_iff]
    exact not_lt.mpr h
  rw [truncated, hnone]

end cutting

/-! ### Expanding and collapsing -/

/-- The action brings the entry of an index into the panel. -/
def PanelAction.Brings (a : PanelAction) (p : Panel) (i : ℕ) : Prop :=
  (a.entry?.isSome ∧ i = p.size) ∨ ∃ es, a.log? = some es ∧ i < es.length

namespace Panel

/-- Since the entry of an index came into the panel, these actions were done; no other log came. -/
def Since (config : PanelConfig) (as : List PanelAction) (i : ℕ) (later : List PanelAction) :
    Prop :=
  ∃ earlier a, as = earlier ++ a :: later ∧ a.Brings ((new config).run earlier) i ∧
    ∀ b ∈ later, b.log? = none

section expanding

variable {p : Panel} {a : PanelAction} {as : List PanelAction} {i : ℕ} {e : Entry}

theorem isExpanded_iff (p : Panel) (i : ℕ) : p.isExpanded i = true ↔ i ∈ p.expanded :=
  List.contains_iff_mem

theorem isCollapsible_iff_lt (he : p.entries[i]? = some e) :
    p.isCollapsible i = true ↔ p.config.previewChars < e.response.length := by
  rw [isCollapsible_iff, he]
  simp

theorem displayResponse?_eq (he : p.entries[i]? = some e) : p.displayResponse? i =
    some (if p.isCollapsible i = true ∧ p.isExpanded i = false then
      String.ofList (e.response.toList.take p.config.previewChars) ++ "…" else e.response) := by
  have hiff := isCollapsible_iff_lt he
  rw [displayResponse?, he, Option.map_some]
  cases hlong : p.isCollapsible i <;> rw [hlong] at hiff
  · rw [truncated_of_le (by simpa using hiff)]
    simp
  · rw [truncated_of_lt (hiff.mp rfl)]
    cases p.isExpanded i <;> simp

theorem isCollapsible_congr {q : Panel} (he : p.entries[i]? = some e)
    (he' : q.entries[i]? = some e) (hconfig : q.config = p.config) :
    q.isCollapsible i = p.isCollapsible i := by
  rw [Bool.eq_iff_iff, isCollapsible_iff_lt he, isCollapsible_iff_lt he', hconfig]

/-- To toggle an entry with a long response turns it over, and nothing else does. -/
theorem isExpanded_act (ha : a.log? = none) (hlong : p.isCollapsible i = true) :
    (p.act a).isExpanded i = (p.isExpanded i ^^ a.toggles i) := by
  rw [Bool.eq_iff_iff, isExpanded_iff, mem_expanded_act, and_iff_right ha, ← isExpanded_iff]
  cases a.toggles i <;> cases p.isExpanded i <;> simp [hlong]

/-- **What is shown of an entry** is left alone by every action but those that toggle it or put
another log in the place of its own. -/
theorem displayResponse?_act (ha : a.log? = none) (htoggle : a.toggles i = false)
    (he : p.entries[i]? = some e) : (p.act a).displayResponse? i = p.displayResponse? i := by
  have he' := entries_act_of_log?_eq_none ha he
  rw [displayResponse?_eq he, displayResponse?_eq he', config_act,
    isCollapsible_congr he he' (p.config_act a)]
  cases hlong : p.isCollapsible i with
  | false => simp
  | true => rw [isExpanded_act ha hlong, htoggle, Bool.xor_false]

/-- After actions that keep the log, a long response is turned over as often as it was toggled. -/
theorem isExpanded_run (has : ∀ a ∈ as, a.log? = none) (he : p.entries[i]? = some e)
    (hlong : p.isCollapsible i = true) :
    (p.run as).isExpanded i = (p.isExpanded i ^^ decide (Odd (as.countP (·.toggles i)))) := by
  induction as generalizing p with
  | nil => simp [run]
  | cons a as ih =>
      rw [List.forall_mem_cons] at has
      obtain ⟨hlog, hrest⟩ := has
      have he' := entries_act_of_log?_eq_none hlog he
      have hlong' := (isCollapsible_congr he he' (p.config_act a)).trans hlong
      refine (ih hrest he' hlong').trans ?_
      rw [isExpanded_act hlog hlong, List.countP_cons, Bool.xor_assoc]
      congr 1
      cases htoggle : a.toggles i with
      | false => rw [if_neg (by simp), Nat.add_zero, Bool.false_xor]
      | true =>
          rw [if_pos rfl, Bool.true_xor, ← decide_not]
          exact decide_eq_decide.mpr Nat.odd_add_one.symm

end expanding

/-! ### Since an entry came in -/

section since

variable {config : PanelConfig} {as later : List PanelAction} {p : Panel} {a : PanelAction} {i : ℕ}

theorem Paged.isExpanded_act_of_brings (h : p.Paged) (ha : a.Brings p i) :
    i < (p.act a).size ∧ (p.act a).isExpanded i = false := by
  rw [← Bool.not_eq_true, isExpanded_iff, mem_expanded_act, size, entries_act]
  rcases ha with ⟨hsome, rfl⟩ | ⟨es, hlog, hi⟩
  · obtain ⟨e, he⟩ := Option.isSome_iff_exists.mp hsome
    have hout : p.entries.length ∉ p.expanded := by
      intro hmem
      obtain ⟨e', he', -⟩ := h.expanded _ hmem
      exact absurd (List.getElem?_eq_some_iff.mp he').1 (lt_irrefl _)
    simp [he, PanelAction.log?_of_entry? he, PanelAction.toggles_of_entry? he, hout, size]
  · simp [hlog, hi]

/-- Every entry came in at some time. -/
theorem exists_since (config : PanelConfig) (as : List PanelAction)
    (hi : i < ((new config).run as).size) : ∃ later, Since config as i later := by
  induction as using List.reverseRecOn with
  | nil => exact absurd hi (Nat.not_lt_zero i)
  | append_singleton as a ih =>
      rw [run_concat, size, entries_act] at hi
      cases hlog : a.log? with
      | some es =>
          rw [hlog] at hi
          exact ⟨[], as, a, rfl, .inr ⟨es, hlog, hi⟩, List.forall_mem_nil _⟩
      | none =>
          rw [hlog, Option.getD_none, List.length_append] at hi
          rcases Nat.lt_or_ge i ((new config).run as).size with hold | hnew
          · obtain ⟨later, earlier, b, rfl, hb, hlater⟩ := ih hold
            refine ⟨later ++ [a], earlier, b, List.append_assoc _ _ _, hb, ?_⟩
            rw [List.forall_mem_append, List.forall_mem_singleton]
            exact ⟨hlater, hlog⟩
          · cases he : a.entry? with
            | none =>
                rw [he] at hi
                exact absurd hi (not_lt.mpr hnew)
            | some e =>
                rw [he] at hi
                have hlast : i = ((new config).run as).size :=
                  le_antisymm (Nat.lt_succ_iff.mp hi) hnew
                exact ⟨[], as, a, rfl, .inl ⟨by rw [he]; rfl, hlast⟩, List.forall_mem_nil _⟩

/-- A long response is expanded if it was toggled an odd number of times since it came in. -/
theorem isExpanded_since (hsince : Since config as i later)
    (hlong : ((new config).run as).isCollapsible i = true) :
    ((new config).run as).isExpanded i = decide (Odd (later.countP (·.toggles i))) := by
  obtain ⟨earlier, a, rfl, ha, hlater⟩ := hsince
  obtain ⟨hi, hclosed⟩ := (paged_run config earlier).isExpanded_act_of_brings ha
  have he := List.getElem?_eq_getElem hi
  have hrun : (new config).run (earlier ++ a :: later) =
      (((new config).run earlier).act a).run later := run_append _ _ _
  have he' := entries_run_of_log?_eq_none hlater he
  rw [hrun] at hlong ⊢
  rw [isCollapsible_congr he he' (config_run _ later)] at hlong
  rw [isExpanded_run hlater he hlong, hclosed, Bool.false_xor]

/-- **Long responses are shown by their beginning until they are expanded.**  In every panel that is
reached, an entry can be collapsed if its response is one that is cut, that is, has more characters
than are kept; it is cut between the bytes of its first characters and the others.  The response is
shown as it is if it cannot be collapsed or was toggled an odd number of times since its entry came
into the panel, and else by its first characters and an ellipsis.  No action but toggling it, or
putting another log in the place of its own, changes what is shown of an entry. -/
theorem displayed_of_run (config : PanelConfig) (as : List PanelAction) :
    let p := (new config).run as
    (∀ i e, p.entries[i]? = some e →
      let kept := String.ofList (e.response.toList.take config.previewChars)
      (p.isCollapsible i = true ↔ (cut? e.response config.previewChars).isSome = true) ∧
      (p.isCollapsible i = true ↔ config.previewChars < e.response.length) ∧
      (∀ place, cut? e.response config.previewChars = some place →
        kept.toByteArray = e.response.toByteArray.extract 0 place.offset.byteIdx) ∧
      truncated e.response config.previewChars =
        (if p.isCollapsible i = true then kept ++ "…" else e.response) ∧
      (∃ later, Since config as i later) ∧
      ∀ later, Since config as i later → p.displayResponse? i =
        some (if p.isCollapsible i = false ∨ Odd (later.countP (·.toggles i)) then e.response
          else kept ++ "…")) ∧
    ∀ a i, i < p.size → a.log? = none → a.toggles i = false →
      (p.act a).displayResponse? i = p.displayResponse? i := by
  intro p
  have hconfig : p.config.previewChars = config.previewChars := by
    rw [show p.config = _ from config_run _ as]
    rfl
  refine ⟨fun i e he => ?_, fun a i hi ha htoggle =>
    displayResponse?_act ha htoggle (List.getElem?_eq_getElem hi)⟩
  have hlong := isCollapsible_iff_lt he
  rw [hconfig] at hlong
  have hsize := (List.getElem?_eq_some_iff.mp he).1
  refine ⟨hlong.trans isSome_cut?_iff.symm, hlong, fun place => toByteArray_cut?, ?_,
    exists_since config as hsize, fun later hsince => ?_⟩
  · split_ifs with hcase
    · exact truncated_of_lt (hlong.mp hcase)
    · exact truncated_of_le (not_lt.mp (mt hlong.mpr hcase))
  · rw [displayResponse?_eq he, hconfig]
    cases hcase : p.isCollapsible i with
    | false => simp
    | true =>
        rw [isExpanded_since hsince hcase]
        by_cases hodd : Odd (later.countP (·.toggles i)) <;> simp [hodd]

end since

end Panel
end PenPlotter
