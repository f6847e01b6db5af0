import PenPlotter.Json.Printer
import PenPlotter.Json.Reading
import PenPlotter.Settings.Basic
import PenPlotter.Toml.Basic
import PenPlotter.Toml.Document

/-! # Written settings

Settings are kept as a JSON or a TOML text: a record of four sections, each a record of its
fields.  What a text leaves out has its usual value, and what is not known is passed over. -/

namespace PenPlotter

/-! ### Reading -/

section reading

variable {τ : Type} [Readable τ]

/-- A whole number of 64 bits. -/
def readWord (t : τ) : Option UInt64 := (Readable.natural? 64 t).map UInt64.ofNat

/-- A whole number of 32 bits. -/
def readHalfWord (t : τ) : Option UInt32 := (Readable.natural? 32 t).map UInt32.ofNat

def DeviceSettings.read? (t : τ) : Option DeviceSettings := do
  let f ← Readable.record? ["base_url", "timeout_ms"] t
  let usual : DeviceSettings := {}
  some {
    baseUrl := ← f.orDefault "base_url" usual.baseUrl Readable.string?
    timeout := ← f.orDefault "timeout_ms" usual.timeout readWord }

def StreamSettings.read? (t : τ) : Option StreamSettings := do
  let f ← Readable.record? ["url", "reconnect_delay_ms", "seen_key_capacity"] t
  let usual : StreamSettings := {}
  some {
    url := ← f.orDefault "url" usual.url Readable.string?
    reconnectDelay := ← f.orDefault "reconnect_delay_ms" usual.reconnectDelay readWord
    seenCapacity := ← f.orDefault "seen_key_capacity" usual.seenCapacity readWord }

def PreviewSettings.read? (t : τ) : Option PreviewSettings := do
  let f ← Readable.record? ["canvas_width", "canvas_height", "padding_px", "default_paper"] t
  let usual : PreviewSettings := {}
  some {
    canvasWidth := ← f.orDefault "canvas_width" usual.canvasWidth readHalfWord
    canvasHeight := ← f.orDefault "canvas_height" usual.canvasHeight readHalfWord
    padding := ← f.orDefault "padding_px" usual.padding Readable.float?
    defaultPaper := ← f.orDefault "default_paper" usual.defaultPaper
      (Readable.nullable? Readable.string?) }

def ConsoleSettings.read? (t : τ) : Option ConsoleSettings := do
  let f ← Readable.record? ["page_size", "response_preview_chars", "follow_threshold_px"] t
  let usual : ConsoleSettings := {}
  some {
    pageSize := ← f.orDefault "page_size" usual.pageSize readWord
    previewChars := ← f.orDefault "response_preview_chars" usual.previewChars readWord
    followThreshold := ← f.orDefault "follow_threshold_px" usual.followThreshold
      Readable.float? }

def Settings.read? (t : τ) : Option Settings := do
  let f ← Readable.record? ["api", "stream", "preview", "console"] t
  let usual : Settings := {}
  some {
    device := ← f.orDefault "api" usual.device DeviceSettings.read?
    stream := ← f.orDefault "stream" usual.stream StreamSettings.read?
    preview := ← f.orDefault "preview" usual.preview PreviewSettings.read?
    console := ← f.orDefault "console" usual.console ConsoleSettings.read? }

end reading

/-! ### Writing -/

/-- A field of a written section. -/
inductive SettingValue where
  | text (s : String)
  | natural (n : Nat)
  | float (x : Float)
  | textOrNone (s : Option String)
deriving Repr, Inhabited

/-- The sections with their fields in order. -/
def Settings.sections (s : Settings) : List (String × List (String × SettingValue)) :=
  [("api", [("base_url", .text s.device.baseUrl), ("timeout_ms", .natural s.device.timeout.toNat)]),
    ("stream", [("url", .text s.stream.url),
      ("reconnect_delay_ms", .natural s.stream.reconnectDelay.toNat),
      ("seen_key_capacity", .natural s.stream.seenCapacity.toNat)]),
    ("preview", [("canvas_width", .natural s.preview.canvasWidth.toNat),
      ("canvas_height", .natural s.preview.canvasHeight.toNat),
      ("padding_px", .float s.preview.padding),
      ("default_paper", .textOrNone s.preview.defaultPaper)]),
    ("console", [("page_size", .natural s.console.pageSize.toNat),
      ("response_preview_chars", .natural s.console.previewChars.toNat),
      ("follow_threshold_px", .float s.console.followThreshold)])]

def SettingValue.toJson : SettingValue → Json
  | .text s => .string s
  | .natural n => Json.natural n
  | .float x => Json.float x
  | .textOrNone s => Json.stringOrNull s

/-- A field in TOML, which leaves out what there is not. -/
def SettingValue.toToml? : SettingValue → Option Toml
  | .text s => some (.string s)
  | .natural n => some (.integer n)
  | .float x => some (.float x)
  | .textOrNone s => s.map .string

def Settings.toJson (s : Settings) : Json :=
  .object (s.sections.map fun (name, fields) =>
    (name, .object (fields.map fun (key, v) => (key, v.toJson))))

/-- Settings in TOML, unless a number is too great for it. -/
def Settings.toToml? (s : Settings) : Option String :=
  Toml.sectionsText? (s.sections.map fun (name, fields) =>
    (name, fields.filterMap fun (key, v) => v.toToml?.map fun t => (key, t)))

end PenPlotter
