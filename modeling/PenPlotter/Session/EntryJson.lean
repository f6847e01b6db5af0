import PenPlotter.Json.Reading
import PenPlotter.Session.Entry

/-! # Log entries as JSON -/

namespace PenPlotter

open Json

namespace Entry

def fieldNames : List String := ["timestamp", "command", "response"]

def toJson (e : Entry) : Json :=
  .object [("timestamp", .string e.timestamp), ("command", .string e.command),
    ("response", .string e.response)]

def ofTree? (t : Tree) : Option Entry := do
  let r ← t.record? fieldNames
  some ⟨← r.required "timestamp" Tree.string?, ← r.required "command" Tree.string?,
    ← r.required "response" Tree.string?⟩

end Entry

namespace Origin

def name : Origin → String
  | .stream => "Stream"
  | .localEcho => "LocalEcho"

def ofName? : String → Option Origin
  | "Stream" => some .stream
  | "LocalEcho" => some .localEcho
  | _ => none

def ofTree? (t : Tree) : Option Origin := t.name?.bind ofName?

theorem ofName?_name (o : Origin) : ofName? o.name = some o := by cases o <;> rfl

end Origin

namespace StreamState

def ofName? : String → Option StreamState
  | "Disconnected" => some .disconnected
  | "Connecting" => some .connecting
  | "Connected" => some .connected
  | _ => none

/-- Reads a stream state. -/
def ofTree? (t : Tree) : Option StreamState := t.name?.bind ofName?

theorem ofName?_text (s : StreamState) : ofName? s.text = some s := by cases s <;> rfl

end StreamState

end PenPlotter
