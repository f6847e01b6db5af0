import PenPlotter.Event.Basic
import PenPlotter.Session.EntryJson

/-! # Events as JSON

An event is an object whose only member is named for its category, and holds an object whose
only member is named for the event.  An event without fields is its name alone. -/

namespace PenPlotter

open Json

/-- A choice with content. -/
def Json.choice (name : String) (content : Json) : Json := .object [(name, content)]

/-- How many bits a count may have. -/
def countBits : Nat := 64

def PreviewEvent.toJson : PreviewEvent Float → Json
  | .sourceChanged n => .choice "SourceChanged" (.object [("segment_count", .natural n)])
  | .viewChanged zoom panX panY =>
    .choice "ViewChanged"
      (.object [("zoom", .float zoom), ("pan_x", .float panX), ("pan_y", .float panY)])
  | .paperChanged paper => .choice "PaperChanged" (.object [("paper", .stringOrNull paper)])
  | .viewportResized width height =>
    .choice "ViewportResized" (.object [("width", .float width), ("height", .float height)])

def PreviewEvent.ofTree? (t : Tree) : Option (PreviewEvent Float) := do
  match ← t.choice? with
  | ("SourceChanged", some content) => do
    let r ← content.record? ["segment_count"]
    some (.sourceChanged (← r.required "segment_count" (Tree.natural? countBits)))
  | ("ViewChanged", some content) => do
    let r ← content.record? ["zoom", "pan_x", "pan_y"]
    some (.viewChanged (← r.required "zoom" Tree.float?) (← r.required "pan_x" Tree.float?)
      (← r.required "pan_y" Tree.float?))
  | ("PaperChanged", some content) => do
    let r ← content.record? ["paper"]
    some (.paperChanged (← r.nullable "paper" (Tree.nullable? Tree.string?)))
  | ("ViewportResized", some content) => do
    let r ← content.record? ["width", "height"]
    some (.viewportResized (← r.required "width" Tree.float?) (← r.required "height" Tree.float?))
  | _ => none

def SessionEvent.toJson : SessionEvent → Json
  | .stateChanged state => .choice "StateChanged" (.string state.text)
  | .entryAppended entry origin =>
    .choice "EntryAppended" (.object [("entry", entry.toJson), ("origin", .string origin.name)])
  | .logReloaded count => .choice "LogReloaded" (.object [("count", .natural count)])
  | .logCleared => .string "LogCleared"
  | .commandFailed command message =>
    .choice "CommandFailed"
      (.object [("command", .string command), ("message", .string message)])

def SessionEvent.ofTree? (t : Tree) : Option SessionEvent := do
  match ← t.choice? with
  | ("StateChanged", some content) => (StreamState.ofTree? content).map .stateChanged
  | ("EntryAppended", some content) => do
    let r ← content.record? ["entry", "origin"]
    some (.entryAppended (← r.required "entry" Entry.ofTree?) (← r.required "origin" Origin.ofTree?))
  | ("LogReloaded", some content) => do
    let r ← content.record? ["count"]
    some (.logReloaded (← r.required "count" (Tree.natural? countBits)))
  | ("LogCleared", none) => some .logCleared
  | ("LogCleared", some .null) => some .logCleared
  | ("CommandFailed", some content) => do
    let r ← content.record? ["command", "message"]
    some (.commandFailed (← r.required "command" Tree.string?)
      (← r.required "message" Tree.string?))
  | _ => none

namespace Event

def toJson : Event → Json
  | .preview e => .choice "Preview" e.toJson
  | .session e => .choice "Session" e.toJson

def ofTree? (t : Tree) : Option Event := do
  match ← t.choice? with
  | ("Preview", some content) => (PreviewEvent.ofTree? content).map .preview
  | ("Session", some content) => (SessionEvent.ofTree? content).map .session
  | _ => none

def ofJsonText? (s : String) : Option Event := (Tree.ofString? s).bind ofTree?

end Event

namespace EventCategory

def ofName? : String → Option EventCategory
  | "Preview" => some .preview
  | "Session" => some .session
  | _ => none

def ofTree? (t : Tree) : Option EventCategory := t.name?.bind ofName?

end EventCategory

end PenPlotter
