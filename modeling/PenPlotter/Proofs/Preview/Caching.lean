import PenPlotter.Proofs.Preview.Observers

/-! # The cached toolpath

A preview reads a program only if the hash of its text is another one than that of the text that
was read last.  `ToolpathCache.held` is this text, after a list of changes, and
`eq_of_held` says that the cache is made of it: its hash and its toolpath.

So the toolpath that is shown is always that of some text with the right hash.  It is the one of
the text that was given exactly if the held text, should its hash be the same, makes the same moves
(`toolpath_update_iff`).  The hash has 64 bits, and there are programs that share it and draw
something else (`stale_toolpath_of_same_hash`). -/

namespace PenPlotter

/-- What can happen to a cache. -/
inductive CacheChange where
  | update (source : String)
  | clear
deriving Repr, Inhabited

/-- What an action on a renderer does to the cache of its preview. -/
def PlotAction.cacheChange? {α : Type} : PlotAction α → Option CacheChange
  | .setSource source => some (.update source)
  | _ => none

variable {α : Type} [Scalar α]

/-! ### The cache -/

namespace ToolpathCache

def change (c : ToolpathCache α) : CacheChange → ToolpathCache α
  | .update source => (c.update source).1
  | .clear => empty

/-- The cache after a list of changes. -/
def changes (c : ToolpathCache α) (cs : List CacheChange) : ToolpathCache α := cs.foldl change c

/-- The text that was read last, when before a change it was `text?`. -/
def lastRead (text? : Option String) : CacheChange → Option String
  | .update source =>
    if text?.map SipHash.ofString = some (SipHash.ofString source) then text? else some source
  | .clear => none

/-- The text that was read last since the cache was empty. -/
def held (cs : List CacheChange) : Option String := cs.foldl lastRead none

def holding (text? : Option String) : ToolpathCache α :=
  ⟨text?.map SipHash.ofString, (text?.map Toolpath.ofProgram).getD Toolpath.empty⟩

theorem changes_concat (c : ToolpathCache α) (cs : List CacheChange) (x : CacheChange) :
    c.changes (cs ++ [x]) = (c.changes cs).change x := by
  unfold changes
  rw [List.foldl_append]
  rfl

theorem change_holding (text? : Option String) (x : CacheChange) :
    (holding text? : ToolpathCache α).change x = holding (lastRead text? x) := by
  cases x with
  | clear => rfl
  | update source =>
      by_cases h : text?.map SipHash.ofString = some (SipHash.ofString source)
      · simp [change, update, holding, lastRead, h]
      · simp [change, update, holding, lastRead, h]

/-- **The cache is made of the text that it holds.** -/
theorem eq_of_held (cs : List CacheChange) :
    (empty : ToolpathCache α).changes cs = holding (held cs) := by
  induction cs using List.reverseRecOn with
  | nil => rfl
  | append_singleton cs x ih =>
      rw [changes_concat, ih, change_holding]
      unfold held
      rw [List.foldl_append]
      rfl

/-- A text is shown as it is, unless the held text has the same hash and makes other moves. -/
theorem toolpath_update_holding_iff (text? : Option String) (source : String) :
    ((holding text? : ToolpathCache α).update source).1.toolpath = Toolpath.ofProgram source ↔
      ∀ text ∈ text?, SipHash.ofString text = SipHash.ofString source →
        (Toolpath.ofProgram text : Toolpath α) = Toolpath.ofProgram source := by
  cases text? with
  | none => simp [update, holding]
  | some text =>
      by_cases h : SipHash.ofString text = SipHash.ofString source
      · simp [update, holding, h]
      · simp [update, holding, h]

end ToolpathCache

/-! ### The cache of a preview -/

namespace Preview

variable (p : Preview α)

theorem cache_setSource (source : String) :
    (p.setSource source).1.cache = (p.cache.update source).1 := by
  unfold setSource ToolpathCache.update
  by_cases h : p.cache.hash == some (SipHash.ofString source)
  · simp only [h, if_true]
    rfl
  · simp only [h]
    rfl

theorem cache_setPaper (paper : Option (Paper α)) : (p.setPaper paper).1.cache = p.cache := by
  unfold setPaper
  split <;> rfl

theorem cache_setView (view : View α) : (p.setView view).1.cache = p.cache := by
  unfold setView
  split <;> rfl

theorem cache_resize (viewport : Viewport α) : (p.resize viewport).1.cache = p.cache := by
  unfold resize
  split <;> rfl

end Preview

namespace Renderer

theorem cache_perform (r : Renderer α) (a : PlotAction α) :
    (r.perform a).1.state.cache = r.state.cache.changes a.cacheChange?.toList := by
  cases a with
  | setSource source => exact r.state.cache_setSource source
  | setPaper paper => exact r.state.cache_setPaper paper
  | setView view => exact r.state.cache_setView view
  | setPan pan => exact r.state.cache_setView _
  | zoomAt point factor => exact r.state.cache_setView _
  | zoomIn => exact r.state.cache_setView _
  | zoomOut => exact r.state.cache_setView _
  | resize viewport => exact r.state.cache_resize viewport
  | pointerMove point =>
      simp only [perform, pointerMove]
      split
      · rfl
      · exact r.state.cache_setView _
  | wheel point delta =>
      simp only [perform, wheel]
      split
      · rfl
      · exact r.state.cache_setView _
  | pointerUp point => exact congrArg Preview.cache r.state_endDrag
  | pointerLeave => exact congrArg Preview.cache r.state_endDrag
  | resetView | pointerDown | cancelGesture => rfl

/-- The cache of a preview has seen the programs that were shown, and nothing else. -/
theorem cache_run (r : Renderer α) (actions : List (PlotAction α)) :
    (r.run actions).1.state.cache =
      r.state.cache.changes (actions.filterMap PlotAction.cacheChange?) := by
  induction actions using List.reverseRecOn with
  | nil => rfl
  | append_singleton actions a ih =>
      rw [run_concat, cache_perform, ih, List.filterMap_append]
      unfold ToolpathCache.changes
      rw [List.foldl_append]
      cases h : a.cacheChange? <;> simp [h]

end Renderer

/-! ### What is shown -/

namespace ToolpathCache

/-- **The cache is transparent up to its hash.**  For every text and every history of updates and
clearings, the text is read exactly if an update was needed, and afterwards its toolpath is the one
that is held, if and only if the text that was read last does not have the same hash and make other
moves.  The same is true of a preview, whatever was done to it since it was empty. -/
theorem toolpath_update_iff (source : String) :
    (∀ cs, let c := (empty : ToolpathCache α).changes cs
      (c.update source).2 = c.needsUpdate source ∧
      ((c.update source).1.toolpath = Toolpath.ofProgram source ↔
        ∀ text ∈ held cs, SipHash.ofString text = SipHash.ofString source →
          (Toolpath.ofProgram text : Toolpath α) = Toolpath.ofProgram source)) ∧
    (∀ (p : Preview α) (actions : List (PlotAction α)),
      let p' := ((Renderer.new { p with cache := empty }).run actions).1.state
      ((p'.setSource source).1.toolpath = Toolpath.ofProgram source ↔
        ∀ text ∈ held (actions.filterMap PlotAction.cacheChange?),
          SipHash.ofString text = SipHash.ofString source →
            (Toolpath.ofProgram text : Toolpath α) = Toolpath.ofProgram source)) := by
  constructor
  · intro cs c
    refine ⟨update_snd c source, ?_⟩
    have hc : c = holding (held cs) := eq_of_held cs
    rw [hc]
    exact toolpath_update_holding_iff _ _
  · intro p actions p'
    have hp' : p'.cache = holding (held (actions.filterMap PlotAction.cacheChange?)) :=
      (Renderer.cache_run _ actions).trans (eq_of_held _)
    unfold Preview.toolpath
    rw [Preview.cache_setSource, hp']
    exact toolpath_update_holding_iff _ _

/-- Two moves of the pen to different places have texts with the same hash, so that the second
program is shown by the toolpath of the first one. -/
theorem stale_toolpath_of_same_hash :
    let first := "G1 X467.43547515 Y056.03536316"
    let second := "G1 X703.60542016 Y174.47024114"
    let c := (empty : ToolpathCache Float).changes [.update first]
    SipHash.ofString first = SipHash.ofString second ∧ c.needsUpdate second = false ∧
      (c.update second).1.toolpath = Toolpath.ofProgram first ∧
      (Toolpath.ofProgram first : Toolpath Float) ≠ Toolpath.ofProgram second := by
  intro first second c
  have hhash : SipHash.ofString first = SipHash.ofString second := by decide +kernel
  have hc : c = holding (some first) := eq_of_held [.update first]
  refine ⟨hhash, ?_, ?_, ?_⟩
  · rw [hc]
    simp [needsUpdate, holding, hhash]
  · rw [hc]
    simp [update, holding, hhash]
  · intro h
    have hstops := congrArg (fun t => t.segments.map fun s => s.stop.x) h
    revert hstops
    decide +kernel

end ToolpathCache
end PenPlotter
