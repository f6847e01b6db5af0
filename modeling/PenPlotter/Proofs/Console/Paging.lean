import PenPlotter.Proofs.Console.PanelActions
import Mathlib.Algebra.Order.Floor.Div
import Mathlib.Data.Nat.Dist
import Mathlib.Data.Rat.Floor

/-! # Pages of the panel

A panel is `Paged` if its page is one of the log's and only long responses of the log are expanded.
Every action keeps this (`Paged.act`), so it holds of every panel that is reached
(`paged_of_run`).  A page is a piece of the numbered log, cut out by `drop` and `take`
(`pageEntries_eq`), and the pages one after the other are the log (`pages_of_run`). -/

namespace PenPlotter
namespace Panel

/-- The log, each entry with its index. -/
def numbered (p : Panel) : List (Nat × Entry) := (List.range p.size).zip p.entries

/-- The page is one of the log's, and only long responses of the log are expanded.  An empty log has
no page, and the first is shown without entries. -/
structure Paged (p : Panel) : Prop where
  pageSize_pos : 1 ≤ p.config.pageSize
  page_pos : 1 ≤ p.page
  page_le : p.page ≤ max p.pageCount 1
  expanded : ∀ i ∈ p.expanded,
    ∃ e, p.entries[i]? = some e ∧ p.config.previewChars < e.response.length

/-! ### The number of pages -/

section count

variable {p : Panel}

theorem pageCount_le_iff (hsize : 1 ≤ p.config.pageSize) (n : ℕ) :
    p.pageCount ≤ n ↔ p.size ≤ p.config.pageSize * n := by
  rw [pageCount, ← Nat.ceilDiv_eq_add_pred_div]
  exact ceilDiv_le_iff_le_mul hsize

theorem pageCount_eq_ceil (hsize : 1 ≤ p.config.pageSize) :
    p.pageCount = ⌈(p.size : ℚ) / p.config.pageSize⌉₊ := by
  have hpos : (0 : ℚ) < p.config.pageSize := by exact_mod_cast hsize
  refine eq_of_forall_ge_iff fun n => ?_
  rw [pageCount_le_iff hsize, Nat.ceil_le, div_le_iff₀ hpos, mul_comm]
  norm_cast

theorem size_le_mul (hsize : 1 ≤ p.config.pageSize) : p.size ≤ p.config.pageSize * p.pageCount :=
  (pageCount_le_iff hsize _).mp le_rfl

theorem mul_lt_size (hsize : 1 ≤ p.config.pageSize) {n : ℕ} (hn : n < p.pageCount) :
    p.config.pageSize * n < p.size := by
  by_contra hle
  exact absurd ((pageCount_le_iff hsize n).mpr (not_lt.mp hle)) (not_le.mpr hn)

theorem pageCount_pos (hsize : 1 ≤ p.config.pageSize) (es : List Entry) (e : Entry) :
    1 ≤ (p.withEntries (es ++ [e])).pageCount := by
  by_contra hzero
  have hempty := (pageCount_le_iff (p := p.withEntries (es ++ [e])) hsize 0).mp (by omega)
  simp [size, withEntries] at hempty

end count

/-! ### What is on a page -/

section page

variable {p : Panel}

theorem length_numbered (p : Panel) : p.numbered.length = p.size := by simp [numbered, size]

theorem getLast?_numbered {es : List Entry} {e : Entry} (h : p.entries = es ++ [e]) :
    p.numbered.getLast? = some (es.length, e) := by
  have hsize : p.size = es.length + 1 := by rw [size, h, List.length_append, List.length_singleton]
  rw [numbered, hsize, List.range_succ, h, List.zip_append (List.length_range), List.zip_cons_cons,
    List.zip_nil_left, List.getLast?_concat]

theorem pageEntries_eq (p : Panel) :
    p.pageEntries = (p.numbered.drop p.pageStart).take p.config.pageSize := by
  refine List.ext_getElem ?_ fun i h h' => ?_
  · simp [pageEntries, numbered, size]
  · simp [pageEntries, numbered]

theorem length_pageEntries (p : Panel) :
    p.pageEntries.length = min p.config.pageSize (p.size - p.pageStart) := by
  rw [pageEntries_eq, List.length_take, List.length_drop, length_numbered]

theorem page_setPage (p : Panel) (n : ℕ) :
    (p.setPage n).page = max 1 (min n (max p.pageCount 1)) := rfl

theorem setPage_setPage (p : Panel) (m n : ℕ) : (p.setPage m).setPage n = p.setPage n := rfl

theorem pageStart_setPage {n : ℕ} (hn : n < p.pageCount) :
    (p.setPage (n + 1)).pageStart = n * p.config.pageSize := by
  have hpage : (p.setPage (n + 1)).page = n + 1 := by
    rw [page_setPage]
    omega
  rw [pageStart, hpage]
  rfl

theorem pageEntries_setPage {n : ℕ} (hn : n < p.pageCount) :
    (p.setPage (n + 1)).pageEntries =
      (p.numbered.drop (n * p.config.pageSize)).take p.config.pageSize := by
  rw [pageEntries_eq, pageStart_setPage hn]
  rfl

theorem length_pageEntries_setPage {n : ℕ} (hn : n < p.pageCount) :
    (p.setPage (n + 1)).pageEntries.length =
      min p.config.pageSize (p.size - p.config.pageSize * n) := by
  rw [length_pageEntries, pageStart_setPage hn, mul_comm]
  rfl

theorem flatMap_pieces {α : Type} (xs : List α) (width count : ℕ) :
    ((List.range count).flatMap fun n => (xs.drop (n * width)).take width) =
      xs.take (count * width) := by
  induction count with
  | zero => simp
  | succ count ih =>
      rw [List.range_succ, List.flatMap_append, ih, Nat.succ_mul, List.take_add]
      simp

/-- The pages one after the other are the log. -/
theorem flatMap_pageEntries (hsize : 1 ≤ p.config.pageSize) :
    ((List.range' 1 p.pageCount).flatMap fun n => (p.setPage n).pageEntries) = p.numbered := by
  have hpages : ∀ n ∈ List.range p.pageCount, (p.setPage (1 + n)).pageEntries =
      (p.numbered.drop (n * p.config.pageSize)).take p.config.pageSize := by
    intro n hn
    rw [Nat.add_comm]
    exact pageEntries_setPage (List.mem_range.mp hn)
  have hall : p.numbered.length ≤ p.pageCount * p.config.pageSize := by
    rw [length_numbered, mul_comm]
    exact size_le_mul hsize
  rw [List.range'_eq_map_range, List.flatMap_map, List.flatMap_congr hpages, flatMap_pieces,
    List.take_of_length_le hall]

/-- Turning goes on from page to page, and stays at the last one. -/
theorem iterate_nextPage (p : Panel) (n : ℕ) : nextPage^[n] (p.setPage 1) = p.setPage (n + 1) := by
  induction n with
  | zero => rfl
  | succ n ih =>
      have hpage : max 1 (min ((p.setPage (n + 1)).page + 1) (max p.pageCount 1)) =
          max 1 (min (n + 1 + 1) (max p.pageCount 1)) := by
        rw [page_setPage]
        omega
      rw [Function.iterate_succ_apply', ih]
      exact congrArg (fun page => { p with page }) hpage

/-- No page is nearer to a number than the one that is shown for it. -/
theorem dist_setPage_le (p : Panel) (n : ℕ) {m : ℕ} (hm : 1 ≤ m) (hle : m ≤ max p.pageCount 1) :
    Nat.dist n (p.setPage n).page ≤ Nat.dist n m := by
  rw [page_setPage]
  unfold Nat.dist
  omega

end page

/-! ### What the actions keep -/

section actions

variable {p : Panel} {a : PanelAction}

theorem paged_new (config : PanelConfig) : (new config).Paged where
  pageSize_pos := le_max_right _ _
  page_pos := le_rfl
  page_le := le_max_right _ _
  expanded := nofun

theorem Paged.setPage (h : p.Paged) (n : ℕ) : (p.setPage n).Paged where
  pageSize_pos := h.pageSize_pos
  page_pos := le_max_left _ _
  page_le := by
    show max 1 (min n (max p.pageCount 1)) ≤ max p.pageCount 1
    omega
  expanded := h.expanded

theorem Paged.toggle (h : p.Paged) (i : ℕ) : (p.toggle i).1.Paged := by
  have hlong : ∀ j ∈ (p.toggle i).1.expanded, ∃ e, p.entries[j]? = some e ∧
      p.config.previewChars < e.response.length := by
    intro j hj
    rw [mem_expanded_toggle] at hj
    split_ifs at hj with hcase
    · exact (p.isCollapsible_iff j).mp hcase.2
    · exact h.expanded j hj
  rw [toggle_eq]
  exact ⟨h.pageSize_pos, h.page_pos, h.page_le, hlong⟩

/-- Every action keeps the panel on a page of its log. -/
theorem Paged.act (h : p.Paged) (a : PanelAction) : (p.act a).Paged := by
  have hstep := p.step_act a
  generalize p.act a = q at hstep ⊢
  cases hstep with
  | @append e scroll _ =>
      refine ⟨h.pageSize_pos, pageCount_pos h.pageSize_pos _ e, le_max_left _ _, fun i hi => ?_⟩
      obtain ⟨e', he', hlong⟩ := h.expanded i hi
      obtain ⟨hlt, -⟩ := List.getElem?_eq_some_iff.mp he'
      exact ⟨e', (List.getElem?_append_left hlt).trans he', hlong⟩
  | replace scroll _ => exact ⟨h.pageSize_pos, le_max_right _ _, le_rfl, nofun⟩
  | turn page _ => exact h.setPage page
  | @toggle i _ => exact h.toggle i
  | stay scroll _ => exact ⟨h.pageSize_pos, h.page_pos, h.page_le, h.expanded⟩

theorem paged_run (config : PanelConfig) (as : List PanelAction) : ((new config).run as).Paged :=
  run_induction (fun _ a h => h.act a) (paged_new config) as

/-- The first entry of the page is in the log, or it would be the next one of an empty log. -/
theorem Paged.pageStart_le (h : p.Paged) : p.pageStart ≤ p.size := by
  have hpos := h.page_pos
  have hle := h.page_le
  rcases Nat.lt_or_ge (p.page - 1) p.pageCount with hlt | hge
  · have hstart := mul_lt_size h.pageSize_pos hlt
    rw [pageStart, mul_comm]
    exact hstart.le
  · have hfirst : p.page - 1 = 0 := by omega
    rw [pageStart, hfirst, Nat.zero_mul]
    exact Nat.zero_le _

theorem Paged.getLast?_pageEntries (h : p.Paged) (hpage : p.page = p.pageCount)
    {es : List Entry} {e : Entry} (hlog : p.entries = es ++ [e]) :
    p.pageEntries.getLast? = some (es.length, e) := by
  have hpos := h.page_pos
  have hstart : p.pageStart < p.size := by
    rw [pageStart, mul_comm]
    exact mul_lt_size h.pageSize_pos (by omega)
  have hend : p.size - p.pageStart ≤ p.config.pageSize := by
    have hsize := size_le_mul h.pageSize_pos
    have hlast : p.config.pageSize * p.pageCount = p.pageStart + p.config.pageSize := by
      rw [← hpage, pageStart, ← Nat.succ_mul, mul_comm]
      congr 1
      omega
    omega
  rw [pageEntries_eq, List.take_of_length_le (by rwa [List.length_drop, length_numbered]),
    List.getLast?_drop, length_numbered, if_neg (not_le.mpr hstart), getLast?_numbered hlog]

/-- Where a new entry appears the panel turns to the last page. -/
theorem Paged.page_act (h : p.Paged) (hnew : a.entry?.isSome ∨ a.log?.isSome)
    {es : List Entry} {e : Entry} (hlog : (p.act a).entries = es ++ [e]) :
    (p.act a).page = (p.act a).pageCount := by
  have hstep := p.step_act a
  generalize p.act a = q at hstep hlog ⊢
  cases hstep with
  | append scroll _ => rfl
  | @replace es' scroll _ =>
      obtain rfl : es' = es ++ [e] := hlog
      exact max_eq_left (pageCount_pos h.pageSize_pos es e)
  | turn page hquiet => simp [hquiet.entry?, hquiet.log?] at hnew
  | toggle ha => simp [ha, PanelAction.entry?, PanelAction.log?] at hnew
  | stay scroll hquiet => simp [hquiet.entry?, hquiet.log?] at hnew

end actions

/-! ### Pages of every panel that is reached -/

/-- **The panel stays on the pages of its log.**  Whatever is done to a new panel, it shows one of
as many pages as are needed, or the first one of an empty log.  That page begins in the log, and
`page - 1` is no cut subtraction.  Only long responses of the log are expanded.  After an action
that appends an entry, and after one that puts a log with entries in the place of the old one, the
page is the last, and the newest entry is the last on it. -/
theorem paged_of_run (config : PanelConfig) (as : List PanelAction) :
    let p := (new config).run as
    p.config = { config with pageSize := max config.pageSize 1 } ∧
    1 ≤ p.config.pageSize ∧ 1 ≤ p.page ∧ p.page ≤ max p.pageCount 1 ∧
    p.pageCount = ⌈(p.size : ℚ) / p.config.pageSize⌉₊ ∧
    (∀ i ∈ p.expanded, i < p.size ∧
      ∃ e, p.entries[i]? = some e ∧ p.config.previewChars < e.response.length) ∧
    p.pageStart + p.config.pageSize = p.page * p.config.pageSize ∧ p.pageStart ≤ p.size ∧
    (∀ a e, a.entry? = some e →
      (p.act a).entries = p.entries ++ [e] ∧ (p.act a).page = (p.act a).pageCount ∧
      (p.act a).pageEntries.getLast? = some (p.size, e)) ∧
    ∀ a es e, a.log? = some (es ++ [e]) →
      (p.act a).entries = es ++ [e] ∧ (p.act a).page = (p.act a).pageCount ∧
      (p.act a).pageEntries.getLast? = some (es.length, e) := by
  intro p
  have h : p.Paged := paged_run config as
  have hlast {a : PanelAction} (hnew : a.entry?.isSome ∨ a.log?.isSome) {es : List Entry}
      {e : Entry} (hlog : (p.act a).entries = es ++ [e]) :
      (p.act a).entries = es ++ [e] ∧ (p.act a).page = (p.act a).pageCount ∧
        (p.act a).pageEntries.getLast? = some (es.length, e) :=
    have hpage := h.page_act hnew hlog
    ⟨hlog, hpage, (h.act a).getLast?_pageEntries hpage hlog⟩
  refine ⟨config_run _ as, h.pageSize_pos, h.page_pos, h.page_le, pageCount_eq_ceil h.pageSize_pos,
    fun i hi => ?_, ?_, h.pageStart_le, fun a e ha => ?_, fun a es e ha => ?_⟩
  · obtain ⟨e, he, hlong⟩ := h.expanded i hi
    exact ⟨(List.getElem?_eq_some_iff.mp he).1, e, he, hlong⟩
  · rw [pageStart, ← Nat.succ_mul]
    congr 1
    exact Nat.sub_add_cancel h.page_pos
  · refine hlast (.inl (by rw [ha]; rfl)) ?_
    rw [entries_act, PanelAction.log?_of_entry? ha, ha]
    rfl
  · refine hlast (.inr (by rw [ha]; rfl)) ?_
    rw [entries_act, ha]
    rfl

/-- **The pages are the log.**  Of every panel that is reached, the pages from the first to the last
one have each entry of the log once, in its order and with its index.  All pages before the last
are full, and the last has an entry.  Turning from the first page on visits the same pages, and
whatever number is asked for, a nearest page is shown; which pages were shown before does not
matter. -/
theorem pages_of_run (config : PanelConfig) (as : List PanelAction) :
    let p := (new config).run as
    p.config.pageSize = max config.pageSize 1 ∧
    ((List.range' 1 p.pageCount).flatMap fun n => (p.setPage n).pageEntries) =
      (List.range p.size).zip p.entries ∧
    (∀ n, 1 ≤ n → n < p.pageCount → (p.setPage n).pageEntries.length = p.config.pageSize) ∧
    (1 ≤ p.pageCount → 1 ≤ (p.setPage p.pageCount).pageEntries.length ∧
      (p.setPage p.pageCount).pageEntries.length ≤ p.config.pageSize) ∧
    (∀ n, nextPage^[n] (p.setPage 1) = p.setPage (n + 1)) ∧
    (∀ m n, (p.setPage m).setPage n = p.setPage n) ∧
    ∀ n, 1 ≤ (p.setPage n).page ∧ (p.setPage n).page ≤ max p.pageCount 1 ∧
      ∀ m, 1 ≤ m → m ≤ max p.pageCount 1 → Nat.dist n (p.setPage n).page ≤ Nat.dist n m := by
  intro p
  have h : p.Paged := paged_run config as
  have hsize := h.pageSize_pos
  refine ⟨congrArg PanelConfig.pageSize (config_run _ as), flatMap_pageEntries hsize,
    fun n hn hlt => ?_, fun hpos => ?_, p.iterate_nextPage, p.setPage_setPage, fun n => ?_⟩
  · obtain ⟨m, rfl⟩ := Nat.exists_eq_add_of_le' hn
    have hnext := mul_lt_size hsize hlt
    rw [Nat.mul_succ] at hnext
    rw [length_pageEntries_setPage (by omega)]
    omega
  · obtain ⟨m, hm⟩ := Nat.exists_eq_add_of_le' hpos
    have hlast := mul_lt_size hsize (n := m) (by omega)
    rw [hm, length_pageEntries_setPage (by omega)]
    omega
  · exact ⟨(h.setPage n).page_pos, (h.setPage n).page_le,
      fun m hm hle => p.dist_setPage_le n hm hle⟩

end Panel
end PenPlotter
