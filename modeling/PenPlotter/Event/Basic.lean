import PenPlotter.Decimal.Shortest
import PenPlotter.Session.Entry

/-! # Events

What the preview and the session tell their observers.  Each event belongs to one of two
categories and has a one-line description. -/

namespace PenPlotter

/-- A change of the preview. -/
inductive PreviewEvent (α : Type) where
  | sourceChanged (segmentCount : Nat)
  | viewChanged (zoom panX panY : α)
  | paperChanged (paper : Option String)
  | viewportResized (width height : α)
deriving Repr, Inhabited

/-- A change of the session. -/
inductive SessionEvent where
  | stateChanged (state : StreamState)
  | entryAppended (entry : Entry) (origin : Origin)
  | logReloaded (count : Nat)
  | logCleared
  | commandFailed (command message : String)
deriving Repr, DecidableEq, Inhabited

/-- Any event. -/
inductive Event where
  | preview (event : PreviewEvent Float)
  | session (event : SessionEvent)
deriving Repr, Inhabited

/-- The two kinds of events. -/
inductive EventCategory where
  | preview
  | session
deriving Repr, DecidableEq, Inhabited

def EventCategory.text : EventCategory → String
  | .preview => "Preview"
  | .session => "Session"

def PreviewEvent.description : PreviewEvent Float → String
  | .sourceChanged n => "Source changed (" ++ toString n ++ " segments)"
  | .viewChanged zoom panX panY =>
    "View changed (zoom " ++ fixedText 2 zoom ++ ", pan " ++ fixedText 1 panX ++ ","
      ++ fixedText 1 panY ++ ")"
  | .paperChanged (some name) => "Paper set to " ++ name
  | .paperChanged none => "Paper cleared"
  | .viewportResized width height =>
    "Viewport resized to " ++ numberText width ++ "x" ++ numberText height

def SessionEvent.description : SessionEvent → String
  | .stateChanged state => "Stream " ++ state.text
  | .entryAppended entry origin =>
    "Entry '" ++ entry.command ++ "' appended via " ++ origin.text
  | .logReloaded count => "Log reloaded (" ++ toString count ++ " entries)"
  | .logCleared => "Log cleared"
  | .commandFailed command message => "Command '" ++ command ++ "' failed: " ++ message

namespace Event

def category : Event → EventCategory
  | .preview _ => .preview
  | .session _ => .session

def description : Event → String
  | .preview e => e.description
  | .session e => e.description

end Event

end PenPlotter
