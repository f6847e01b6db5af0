import PenPlotter.Console.Panel
import Mathlib.Data.List.Basic

/-! # What is done to a panel

`PanelAction` is one thing that can be done to a panel, `Panel.run` does several.  An action appends
an entry (`PanelAction.entry?`), puts another log in the place of the old one (`PanelAction.log?`),
or leaves the log alone.  `Panel.Step` says once what an action makes of a panel; what holds of all
panels is read off its cases. -/

namespace PenPlotter

/-- What can be done to a panel. -/
inductive PanelAction where
  | append (e : Entry)
  | replace (entries : List Entry)
  | clear
  /-- The panel follows an event of a session whose log now holds the entries. -/
  | apply (event : SessionEvent) (entries : List Entry)
  | setPage (page : Nat)
  | nextPage
  | previousPage
  | toggle (index : Nat)
  | updateScroll (top height content : Float)
deriving Repr, Inhabited

namespace PanelAction

def entry? : PanelAction → Option Entry
  | .append e => some e
  | .apply (.entryAppended e _) _ => some e
  | _ => none

/-- The log that an action puts in the place of the old one. -/
def log? : PanelAction → Option (List Entry)
  | .replace entries => some entries
  | .clear => some []
  | .apply (.logReloaded _) entries => some entries
  | .apply .logCleared _ => some []
  | _ => none

/-- Whether an action is meant to expand or collapse the entry of an index. -/
def toggles (i : Nat) : PanelAction → Bool
  | .toggle j => j == i
  | _ => false

/-- The action leaves the log and what is expanded alone. -/
structure Quiet (a : PanelAction) : Prop where
  entry? : a.entry? = none
  log? : a.log? = none
  toggles : ∀ i, a.toggles i = false

theorem log?_of_entry? {a : PanelAction} {e : Entry} (h : a.entry? = some e) : a.log? = none := by
  unfold entry? at h
  split at h <;> cases h <;> rfl

theorem toggles_of_entry? {a : PanelAction} {e : Entry} (h : a.entry? = some e) (i : Nat) :
    a.toggles i = false := by
  unfold entry? at h
  split at h <;> cases h <;> rfl

end PanelAction

namespace Panel

/-- The panel after an action. -/
def act (p : Panel) : PanelAction → Panel
  | .append e => (p.append e).1
  | .replace entries => (p.replace entries).1
  | .clear => p.clear
  | .apply event entries => (p.apply event entries).1
  | .setPage page => p.setPage page
  | .nextPage => p.nextPage
  | .previousPage => p.previousPage
  | .toggle i => (p.toggle i).1
  | .updateScroll top height content => p.updateScroll top height content

/-- The panel after a list of actions. -/
def run (p : Panel) (as : List PanelAction) : Panel := as.foldl act p

def withEntries (p : Panel) (entries : List Entry) : Panel := { p with entries }

/-- What an action can make of a panel.  How far the panel is scrolled is left open. -/
inductive Step (p : Panel) (a : PanelAction) : Panel → Prop
  | append {e : Entry} (scroll : Scroll) : a.entry? = some e →
      Step p a { p with entries := p.entries ++ [e]
                        page := (p.withEntries (p.entries ++ [e])).pageCount, scroll }
  | replace {es : List Entry} (scroll : Scroll) : a.log? = some es →
      Step p a { p with entries := es, expanded := []
                        page := max (p.withEntries es).pageCount 1, scroll }
  | turn (page : Nat) : a.Quiet → Step p a (p.setPage page)
  | toggle {i : Nat} : a = .toggle i → Step p a (p.toggle i).1
  | stay (scroll : Scroll) : a.Quiet → Step p a { p with scroll }

section steps

variable {p : Panel} {a : PanelAction} {as : List PanelAction} {i : Nat}

theorem run_append (p : Panel) (as bs : List PanelAction) :
    p.run (as ++ bs) = (p.run as).run bs := List.foldl_append

theorem run_concat (p : Panel) (as : List PanelAction) (a : PanelAction) :
    p.run (as ++ [a]) = (p.run as).act a := p.run_append as [a]

/-- What every action keeps holds after every run. -/
theorem run_induction {Inv : Panel → Prop} (hact : ∀ p a, Inv p → Inv (p.act a)) (h : Inv p)
    (as : List PanelAction) : Inv (p.run as) := by
  induction as generalizing p with
  | nil => exact h
  | cons a as ih => exact ih (hact p a h)

/-! ### The cases of a step -/

theorem pageCount_withEntries_nil (p : Panel) : (p.withEntries []).pageCount = 0 := by
  have hlt : p.config.pageSize - 1 < p.config.pageSize ∨ p.config.pageSize = 0 := by omega
  rcases hlt with hlt | hzero
  · simpa [pageCount, size, withEntries] using Nat.div_eq_of_lt hlt
  · simp [pageCount, size, withEntries, hzero]

theorem step_append {e : Entry} (he : a.entry? = some e) : Step p a (p.append e).1 := by
  unfold append
  cases p.scroll.action false with
  | follow => exact .append p.scroll.pin he
  | stay => exact .append p.scroll he

theorem step_replace {es : List Entry} (hlog : a.log? = some es) :
    Step p a (p.replace es).1 := by
  have hpage : ((p.withEntries es).setPage (p.withEntries es).pageCount).page =
      max (p.withEntries es).pageCount 1 := by
    simp only [setPage]
    omega
  have hstep := Step.replace (p := p) p.scroll.pin hlog
  rw [← hpage] at hstep
  exact hstep

theorem clear_eq_replace (p : Panel) : p.clear = (p.replace []).1 := by
  have hpage :
      1 = max 1 (min (p.withEntries []).pageCount (max (p.withEntries []).pageCount 1)) := by
    rw [pageCount_withEntries_nil]
    rfl
  exact congrArg
    (fun page => { p with entries := [], expanded := [], page, scroll := p.scroll.pin }) hpage

theorem step_clear (hlog : a.log? = some []) : Step p a p.clear := by
  rw [clear_eq_replace]
  exact step_replace hlog

/-- Every action does one of these steps. -/
theorem step_act (p : Panel) (a : PanelAction) : p.Step a (p.act a) := by
  cases a with
  | append e => exact step_append rfl
  | replace es => exact step_replace rfl
  | clear => exact step_clear rfl
  | apply event es =>
      cases event with
      | entryAppended e origin => exact step_append rfl
      | logReloaded count => exact step_replace rfl
      | logCleared => exact step_clear rfl
      | stateChanged state => exact .stay p.scroll ⟨rfl, rfl, fun _ => rfl⟩
      | commandFailed command message => exact .stay p.scroll ⟨rfl, rfl, fun _ => rfl⟩
  | setPage page => exact .turn page ⟨rfl, rfl, fun _ => rfl⟩
  | nextPage => exact .turn _ ⟨rfl, rfl, fun _ => rfl⟩
  | previousPage => exact .turn _ ⟨rfl, rfl, fun _ => rfl⟩
  | toggle i => exact .toggle rfl
  | updateScroll top height content => exact .stay _ ⟨rfl, rfl, fun _ => rfl⟩

/-! ### Expanding and collapsing -/

theorem isCollapsible_iff (p : Panel) (i : Nat) : p.isCollapsible i = true ↔
    ∃ e, p.entries[i]? = some e ∧ p.config.previewChars < e.response.length := by
  unfold isCollapsible
  cases p.entries[i]? <;> simp [String.length_toList]

theorem toggle_eq (p : Panel) (i : Nat) :
    (p.toggle i).1 = { p with expanded := (p.toggle i).1.expanded } := by
  unfold toggle
  split
  · rfl
  · split <;> rfl

theorem mem_expanded_toggle {j : Nat} : i ∈ (p.toggle j).1.expanded ↔
    if j = i ∧ p.isCollapsible i = true then i ∉ p.expanded else i ∈ p.expanded := by
  unfold toggle
  by_cases hj : j = i
  · subst hj
    cases hlong : p.isCollapsible j with
    | false => simp
    | true => by_cases hopen : j ∈ p.expanded <;> simp [isExpanded, hopen]
  · cases hlong : p.isCollapsible j with
    | false => simp [hj]
    | true =>
        have hi : ¬ i = j := fun h => hj h.symm
        by_cases hopen : j ∈ p.expanded <;> simp [isExpanded, hopen, hj, hi]

/-- Another log has nothing expanded, and to toggle an entry with a long response turns it over. -/
theorem mem_expanded_act (p : Panel) (a : PanelAction) (i : Nat) :
    i ∈ (p.act a).expanded ↔ a.log? = none ∧
      if a.toggles i = true ∧ p.isCollapsible i = true then i ∉ p.expanded
      else i ∈ p.expanded := by
  have hstep := p.step_act a
  generalize p.act a = q at hstep ⊢
  cases hstep with
  | append scroll he => simp [PanelAction.log?_of_entry? he, PanelAction.toggles_of_entry? he]
  | replace scroll hlog => simp [hlog]
  | turn page hquiet => simp [hquiet.log?, hquiet.toggles, setPage]
  | toggle ha =>
      rw [ha, mem_expanded_toggle]
      simp [PanelAction.toggles, PanelAction.log?]
  | stay scroll hquiet => simp [hquiet.log?, hquiet.toggles]

/-! ### What the log and the configuration become -/

theorem config_act (p : Panel) (a : PanelAction) : (p.act a).config = p.config := by
  have hstep := p.step_act a
  generalize p.act a = q at hstep ⊢
  cases hstep with
  | toggle => rw [toggle_eq]
  | _ => rfl

theorem config_run (p : Panel) (as : List PanelAction) : (p.run as).config = p.config := by
  have hkept : ∀ q a, q.config = p.config → (act q a).config = p.config :=
    fun q a h => (q.config_act a).trans h
  exact run_induction hkept rfl as

theorem entries_act (p : Panel) (a : PanelAction) :
    (p.act a).entries = a.log?.getD (p.entries ++ a.entry?.toList) := by
  have hstep := p.step_act a
  generalize p.act a = q at hstep ⊢
  cases hstep with
  | append scroll he => simp [he, PanelAction.log?_of_entry? he]
  | replace scroll hlog => simp [hlog]
  | turn page hquiet => simp [hquiet.entry?, hquiet.log?, setPage]
  | toggle ha =>
      rw [ha, toggle_eq]
      exact (List.append_nil p.entries).symm
  | stay scroll hquiet => simp [hquiet.entry?, hquiet.log?]

/-- An entry stays at its place as long as no other log comes. -/
theorem entries_act_of_log?_eq_none (ha : a.log? = none) {e : Entry}
    (he : p.entries[i]? = some e) : (p.act a).entries[i]? = some e := by
  obtain ⟨hi, -⟩ := List.getElem?_eq_some_iff.mp he
  rw [entries_act, ha, Option.getD_none, List.getElem?_append_left hi, he]

theorem entries_run_of_log?_eq_none (has : ∀ a ∈ as, a.log? = none) {e : Entry}
    (he : p.entries[i]? = some e) : (p.run as).entries[i]? = some e := by
  induction as generalizing p with
  | nil => exact he
  | cons a as ih =>
      rw [List.forall_mem_cons] at has
      exact ih has.2 (entries_act_of_log?_eq_none has.1 he)

end steps

end Panel
end PenPlotter
