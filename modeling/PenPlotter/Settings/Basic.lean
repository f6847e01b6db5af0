import PenPlotter.Console.Panel
import PenPlotter.Paper
import PenPlotter.Session.Client
import PenPlotter.Url.Basic

/-! # Settings

The settings of the program in four sections, and what makes them valid.  `Settings.problem?`
names the first thing that is wrong with them. -/

namespace PenPlotter

/-- How the device is reached. -/
structure DeviceSettings where
  /-- The address that the paths of all requests are added to. -/
  baseUrl : String := "http://localhost:8000/api"
  /-- How long a request may take, in milliseconds. -/
  timeout : UInt64 := 5000
deriving Repr, DecidableEq, Inhabited

/-- How the event stream is followed. -/
structure StreamSettings where
  url : String := "ws://localhost:8000/ws"
  /-- The time before a lost stream is opened again, in milliseconds. -/
  reconnectDelay : UInt64 := UInt64.ofNat Client.defaultReconnectDelay
  /-- The number of recent entries that are told from new ones. -/
  seenCapacity : UInt64 := UInt64.ofNat Client.defaultCapacity
deriving Repr, DecidableEq, Inhabited

/-- How drawings are previewed. -/
structure PreviewSettings where
  canvasWidth : UInt32 := 800
  canvasHeight : UInt32 := 600
  /-- The margin around the drawing in pixels. -/
  padding : Float := 20.0
  defaultPaper : Option String := none
deriving Repr, BEq, Inhabited

/-- How the console shows the log. -/
structure ConsoleSettings where
  pageSize : UInt64 := UInt64.ofNat PanelConfig.standard.pageSize
  /-- The length from which responses are cut. -/
  previewChars : UInt64 := UInt64.ofNat PanelConfig.standard.previewChars
  /-- How near to the bottom a view keeps following, in pixels. -/
  followThreshold : Float := PanelConfig.standard.threshold
deriving Repr, BEq, Inhabited

/-- All settings. -/
structure Settings where
  device : DeviceSettings := {}
  stream : StreamSettings := {}
  preview : PreviewSettings := {}
  console : ConsoleSettings := {}
deriving Repr, BEq, Inhabited

/-- What can be wrong with settings. -/
inductive SettingsProblem where
  | unsupportedFormat (format : String)
  | outOfRange (key value : String)
  | invalidUrl (key value : String)
  | unknownPaper (name : String)
deriving Repr, DecidableEq, Inhabited

def SettingsProblem.message : SettingsProblem → String
  | .unsupportedFormat format => "Unsupported config format: " ++ format
  | .outOfRange key value => "Value out of range for '" ++ key ++ "': " ++ value
  | .invalidUrl key value => "Invalid URL for '" ++ key ++ "': " ++ value
  | .unknownPaper name => "Unknown paper size: " ++ name

/-- The paper shown when none is asked for. -/
def PreviewSettings.paper (p : PreviewSettings) :
    Except SettingsProblem (Option (Paper Float)) :=
  match p.defaultPaper with
  | none => .ok none
  | some name =>
    match Paper.ofName? name with
    | some paper => .ok (some paper)
    | none => .error (.unknownPaper name)

/-- Whether a text is an address with one of the given schemes. -/
def hasScheme (schemes : List Scheme) (url : String) : Bool :=
  match Url.ofString? url with
  | some u => schemes.contains u.scheme
  | none => false

def requestSchemes : List Scheme := [.http, .https]

def streamSchemes : List Scheme := [.ws, .wss]

/-- A lower bound of zero; nothing that is not a number has it. -/
def atLeastZero (x : Float) : Bool := 0.0 ≤ x

/-- What must hold of settings, each with the problem there is otherwise. -/
def Settings.requirements (s : Settings) : List (Bool × SettingsProblem) :=
  let nonzero := fun (key : String) (n : UInt64) =>
    (n != 0, SettingsProblem.outOfRange key (toString n.toNat))
  let d := s.device
  let t := s.stream
  let p := s.preview
  let c := s.console
  [(hasScheme requestSchemes d.baseUrl, .invalidUrl "api.base_url" d.baseUrl),
    nonzero "api.timeout_ms" d.timeout,
    (hasScheme streamSchemes t.url, .invalidUrl "stream.url" t.url),
    nonzero "stream.reconnect_delay_ms" t.reconnectDelay,
    nonzero "stream.seen_key_capacity" t.seenCapacity,
    (p.canvasWidth != 0 && p.canvasHeight != 0,
      .outOfRange "preview.canvas_size"
        (toString p.canvasWidth.toNat ++ "x" ++ toString p.canvasHeight.toNat)),
    (atLeastZero p.padding && p.padding.isFinite,
      .outOfRange "preview.padding_px" (numberText p.padding)),
    (p.paper.isOk, .unknownPaper (p.defaultPaper.getD "")),
    nonzero "console.page_size" c.pageSize,
    nonzero "console.response_preview_chars" c.previewChars,
    (atLeastZero c.followThreshold,
      .outOfRange "console.follow_threshold_px" (numberText c.followThreshold))]

def Settings.problem? (s : Settings) : Option SettingsProblem :=
  (s.requirements.find? fun (holds, _) => !holds).map (·.2)

theorem Settings.problem?_eq_none_iff {s : Settings} :
    s.problem? = none ↔ ∀ r ∈ s.requirements, r.1 = true := by
  simp [problem?, List.find?_eq_none]

end PenPlotter
