import PenPlotter.Console.Scroll
import PenPlotter.Event.Basic
import PenPlotter.Text.Basic
import PenPlotter.Time.Timestamp

/-! # The console panel

The panel shows the log in pages.  Long responses are shown by their beginning until they are
expanded.  New entries turn to the last page. -/

namespace PenPlotter

/-- How the panel divides and shortens the log. -/
structure PanelConfig where
  pageSize : Nat
  previewChars : Nat
  threshold : Float
deriving Repr, Inhabited

def PanelConfig.standard : PanelConfig := ⟨25, 200, 80.0⟩

/-- The entries shown and how they are shown. -/
structure Panel where
  config : PanelConfig
  entries : List Entry
  /-- The current page, counted from 1. -/
  page : Nat
  /-- The indices of the expanded entries. -/
  expanded : List Nat
  scroll : Scroll
deriving Repr, Inhabited

/-- Where a text goes on after its first `limit` characters, if it has more. -/
def cut? (text : String) (limit : Nat) : Option text.Pos :=
  let place := text.startPos.nextn limit
  if place = text.endPos then none else some place

/-- The first `limit` characters of a text and an ellipsis, or the text if it is no longer. -/
def truncated (text : String) (limit : Nat) : String :=
  match cut? text limit with
  | some place => (text.sliceTo place).copy ++ "…"
  | none => text

namespace Panel

/-- A panel without entries; a page holds at least one entry. -/
def new (config : PanelConfig) : Panel :=
  { config := { config with pageSize := max config.pageSize 1 }
    entries := [], page := 1, expanded := [], scroll := Scroll.new config.threshold }

def size (p : Panel) : Nat := p.entries.length

/-- The number of pages; the last one may be partly filled. -/
def pageCount (p : Panel) : Nat := (p.size + p.config.pageSize - 1) / p.config.pageSize

/-- Turns to a page, or to the nearest that exists. -/
def setPage (p : Panel) (page : Nat) : Panel := { p with page := max 1 (min page (max p.pageCount 1)) }

def nextPage (p : Panel) : Panel := p.setPage (p.page + 1)

def previousPage (p : Panel) : Panel := p.setPage (p.page - 1)

/-- The index of the first entry of the current page. -/
def pageStart (p : Panel) : Nat := (p.page - 1) * p.config.pageSize

/-- The entries of the current page with their indices. -/
def pageEntries (p : Panel) : List (Nat × Entry) :=
  ((p.entries.drop p.pageStart).take p.config.pageSize).mapIdx fun i e => (p.pageStart + i, e)

def updateScroll (p : Panel) (top height content : Float) : Panel :=
  { p with scroll := p.scroll.update top height content }

/-- Shows a new entry. -/
def append (p : Panel) (e : Entry) : Panel × ScrollAction :=
  let action := p.scroll.action false
  let p := { p with entries := p.entries ++ [e] }
  let p := { p with page := p.pageCount }
  (match action with
    | .follow => { p with scroll := p.scroll.pin }
    | .stay => p, action)

/-- Shows other entries. -/
def replace (p : Panel) (entries : List Entry) : Panel × ScrollAction :=
  let p := { p with entries, expanded := [] }
  let p := p.setPage p.pageCount
  let p := { p with scroll := p.scroll.pin }
  (p, p.scroll.action true)

def clear (p : Panel) : Panel :=
  { p with entries := [], expanded := [], page := 1, scroll := p.scroll.pin }

/-- Follows an event of the session whose log now holds `entries`. -/
def apply (p : Panel) (event : SessionEvent) (entries : List Entry) :
    Panel × Option ScrollAction :=
  match event with
  | .entryAppended entry _ =>
    let (p, action) := p.append entry
    (p, some action)
  | .logReloaded _ =>
    let (p, action) := p.replace entries
    (p, some action)
  | .logCleared => (p.clear, some .follow)
  | .stateChanged _ => (p, none)
  | .commandFailed _ _ => (p, none)

/-- Whether the response of an entry is too long to be shown at once. -/
def isCollapsible (p : Panel) (index : Nat) : Bool :=
  match p.entries[index]? with
  | some e => decide (p.config.previewChars < e.response.toList.length)
  | none => false

def isExpanded (p : Panel) (index : Nat) : Bool := p.expanded.contains index

/-- Expands or collapses an entry with a long response; tells whether it is expanded now. -/
def toggle (p : Panel) (index : Nat) : Panel × Bool :=
  if !p.isCollapsible index then (p, false)
  else if p.isExpanded index then ({ p with expanded := p.expanded.filter (· != index) }, false)
  else ({ p with expanded := index :: p.expanded }, true)

/-- The response of an entry as it is shown. -/
def displayResponse? (p : Panel) (index : Nat) : Option String :=
  (p.entries[index]?).map fun e =>
    if p.isExpanded index then e.response else truncated e.response p.config.previewChars

/-- The text of an entry whose response is shown as given. -/
def entryText (e : Entry) (response : String) : String :=
  "[" ++ Timestamp.clockText e.timestamp ++ "] > " ++ e.command
    ++ String.join ((Text.linesOf response).map ("\n  " ++ ·))

/-- The text of an entry as it is shown. -/
def format? (p : Panel) (index : Nat) : Option String :=
  match p.entries[index]?, p.displayResponse? index with
  | some e, some response => some (entryText e response)
  | _, _ => none

end Panel

end PenPlotter
