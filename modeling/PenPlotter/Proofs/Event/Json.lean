import PenPlotter.Event.Json
import PenPlotter.Proofs.Json.Record

/-! # Events survive JSON

What is printed of an event is read as the event, up to what the reader makes of its doubles.  Each
type is read from the tree of its printed value; objects are read as records of their members
(`Json.record?_object`), and names as the cases they belong to. -/

namespace PenPlotter

open Json

variable {α β : Type}

def PreviewEvent.doubles : PreviewEvent α → List α
  | .sourceChanged _ => []
  | .viewChanged zoom panX panY => [zoom, panX, panY]
  | .paperChanged _ => []
  | .viewportResized width height => [width, height]

def PreviewEvent.counts : PreviewEvent α → List ℕ
  | .sourceChanged n => [n]
  | _ => []

/-- The event with every double replaced, if each of them can be. -/
def PreviewEvent.traverse (f : α → Option β) : PreviewEvent α → Option (PreviewEvent β)
  | .sourceChanged n => some (.sourceChanged n)
  | .viewChanged zoom panX panY => do some (.viewChanged (← f zoom) (← f panX) (← f panY))
  | .paperChanged paper => some (.paperChanged paper)
  | .viewportResized width height => do some (.viewportResized (← f width) (← f height))

def SessionEvent.counts : SessionEvent → List ℕ
  | .logReloaded count => [count]
  | _ => []

namespace Event

def doubles : Event → List Float
  | .preview e => e.doubles
  | .session _ => []

def counts : Event → List ℕ
  | .preview e => e.counts
  | .session e => e.counts

/-- The event with every double as it is read from its text, if all of them can be read. -/
def reread : Event → Option Event
  | .preview e => (e.traverse fun x => (Json.float x).tree.float?).map .preview
  | .session e => some (.session e)

end Event

/-! ### Parts of printed values -/

section parts

theorem Json.choice?_choice (name : String) (content : Json) :
    (Json.choice name content).tree.choice? = some (name, some content.tree) := rfl

theorem Entry.ofTree?_toJson (e : Entry) : Entry.ofTree? e.toJson.tree = some e := by
  obtain ⟨f, hf, hget⟩ := record?_object fieldNames
    [("timestamp", .string e.timestamp), ("command", .string e.command),
      ("response", .string e.response)] (by simp) (by simp [fieldNames])
  simp [ofTree?, toJson, hf, hget, Fields.required, string?_string]

theorem Origin.ofTree?_name (o : Origin) : Origin.ofTree? (Json.string o.name).tree = some o := by
  rw [ofTree?, name?_string, Option.bind_some, ofName?_name]

theorem StreamState.ofTree?_text (s : StreamState) :
    StreamState.ofTree? (Json.string s.text).tree = some s := by
  rw [ofTree?, name?_string, Option.bind_some, ofName?_text]

end parts

/-! ### Events -/

section events

theorem PreviewEvent.ofTree?_toJson {e : PreviewEvent Float}
    (hcounts : ∀ n ∈ e.counts, n < 2 ^ countBits) :
    PreviewEvent.ofTree? e.toJson.tree = e.traverse fun x => (Json.float x).tree.float? := by
  cases e with
  | sourceChanged n =>
      obtain ⟨f, hf, hget⟩ := record?_object ["segment_count"]
        [("segment_count", .natural n)] (by simp) (by simp)
      have hn := natural?_natural (hcounts n List.mem_cons_self) (Nat.le_refl _)
      simp [ofTree?, toJson, choice?_choice, hf, hget, Fields.required, traverse, hn]
  | viewChanged zoom panX panY =>
      obtain ⟨f, hf, hget⟩ := record?_object ["zoom", "pan_x", "pan_y"]
        [("zoom", .float zoom), ("pan_x", .float panX), ("pan_y", .float panY)]
        (by simp) (by simp)
      simp [ofTree?, toJson, choice?_choice, hf, hget, Fields.required, traverse]
  | paperChanged paper =>
      obtain ⟨f, hf, hget⟩ := record?_object ["paper"]
        [("paper", .stringOrNull paper)] (by simp) (by simp)
      simp [ofTree?, toJson, choice?_choice, hf, hget, Fields.nullable, traverse,
        nullable?_stringOrNull]
  | viewportResized width height =>
      obtain ⟨f, hf, hget⟩ := record?_object ["width", "height"]
        [("width", .float width), ("height", .float height)] (by simp) (by simp)
      simp [ofTree?, toJson, choice?_choice, hf, hget, Fields.required, traverse]

theorem SessionEvent.ofTree?_toJson {e : SessionEvent}
    (hcounts : ∀ n ∈ e.counts, n < 2 ^ countBits) :
    SessionEvent.ofTree? e.toJson.tree = some e := by
  cases e with
  | stateChanged state =>
      simp [ofTree?, toJson, choice?_choice, StreamState.ofTree?_text]
  | entryAppended entry origin =>
      obtain ⟨f, hf, hget⟩ := record?_object ["entry", "origin"]
        [("entry", entry.toJson), ("origin", .string origin.name)] (by simp) (by simp)
      simp [ofTree?, toJson, choice?_choice, hf, hget, Fields.required, Entry.ofTree?_toJson,
        Origin.ofTree?_name]
  | logReloaded count =>
      obtain ⟨f, hf, hget⟩ := record?_object ["count"]
        [("count", .natural count)] (by simp) (by simp)
      have hn := natural?_natural (hcounts count List.mem_cons_self) (Nat.le_refl _)
      simp [ofTree?, toJson, choice?_choice, hf, hget, Fields.required, hn]
  | logCleared => rfl
  | commandFailed command message =>
      obtain ⟨f, hf, hget⟩ := record?_object ["command", "message"]
        [("command", .string command), ("message", .string message)] (by simp)
        (by simp)
      simp [ofTree?, toJson, choice?_choice, hf, hget, Fields.required, string?_string]

theorem PreviewEvent.traverse_eq_some {f : α → Option α} {e : PreviewEvent α}
    (h : ∀ x ∈ e.doubles, f x = some x) : e.traverse f = some e := by
  cases e <;> simp_all [doubles, traverse]

namespace Event

variable {e : Event}

theorem ofJsonText?_compact (hcounts : ∀ n ∈ e.counts, n < 2 ^ countBits) :
    ofJsonText? e.toJson.compact = e.reread := by
  rw [ofJsonText?, ofString?_compact, Option.bind_some]
  cases e with
  | preview e =>
      simp only [ofTree?, toJson, choice?_choice, PreviewEvent.ofTree?_toJson hcounts, reread,
        Option.bind_eq_bind, Option.bind_some]
  | session e =>
      simp only [ofTree?, toJson, choice?_choice, SessionEvent.ofTree?_toJson hcounts, reread,
        Option.bind_eq_bind, Option.bind_some, Option.map_some]

/-- **Events survive JSON.**  Every event, of any kind and with any texts, whose counts have at most
64 bits and whose doubles are finite is read from its compact text as it was, provided that finite
doubles are read back from their texts. -/
theorem survives_json (hcounts : ∀ n ∈ e.counts, n < 2 ^ countBits)
    (hfinite : ∀ x ∈ e.doubles, x.isFinite = true)
    (hexact : ∀ x ∈ e.doubles, x.isFinite = true → ReadsBack x) :
    ofJsonText? e.toJson.compact = some e := by
  rw [ofJsonText?_compact hcounts]
  cases e with
  | preview e =>
      have hdoubles : ∀ x ∈ e.doubles, (Json.float x).tree.float? = some x :=
        fun x hx => (hexact x hx (hfinite x hx)).float?_float
      rw [reread, PreviewEvent.traverse_eq_some hdoubles, Option.map_some]
  | session e => rfl

/-- A view with a fraction, the negative zero and a small number, and an entry with all kinds of
characters. -/
theorem survives_json_view :
    let view : Event := .preview (.viewChanged 1.5 (-0.0) 1e-7)
    let entry : Event :=
      .session (.entryAppended ⟨"", "\"G1\" \\ \u0000\n", "\u007f é 🖊"⟩ .localEcho)
    (∀ x ∈ view.doubles, x.isFinite = true → ReadsBack x) ∧
    ofJsonText? view.toJson.compact = some view ∧
    ofJsonText? entry.toJson.compact = some entry := by
  intro view entry
  have hfinite : ∀ x ∈ view.doubles, x.isFinite = true := by decide
  have hexact : ∀ x ∈ view.doubles, x.isFinite = true → ReadsBack x := by
    intro x hx _
    simp only [view, doubles, PreviewEvent.doubles, List.mem_cons, List.not_mem_nil, or_false] at hx
    rcases hx with rfl | rfl | rfl <;> rfl
  exact ⟨hexact, survives_json nofun hfinite hexact, survives_json nofun nofun nofun⟩

end Event

end events

end PenPlotter
