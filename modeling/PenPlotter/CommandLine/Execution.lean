import PenPlotter.CommandLine.Command
import PenPlotter.Console.Rehearsal

/-! # Running commands

The settings of a command line are those of its settings file, or the usual ones, with the
addresses given among the arguments in their place.  Every command but the preview and the
console makes one call to the device and reports its reply. -/

namespace PenPlotter

/-- What a command leaves behind. -/
structure Execution (σ : Type) where
  device : σ
  files : FileSystem
  /-- The texts printed, each of which ends its line. -/
  output : List String
  result : Except Trouble Unit

namespace CommandLine

/-- The settings with which a command runs. -/
def settings (c : CommandLine) (fs : FileSystem) (d : Settings.UserDirectories) :
    Except Trouble Settings := do
  let s ← troubled .settings ["loading configuration"] (Settings.loadFrom fs d c.settingsFile)
  let s := { s with
    device := { s.device with baseUrl := c.deviceUrl.getD s.device.baseUrl }
    stream := { s.stream with url := c.streamUrl.getD s.stream.url } }
  match s.problem? with
  | some p => .error ⟨["invalid configuration"], .problem p⟩
  | none => .ok s

end CommandLine

namespace Command

/-- The call that a command makes, and what is being done meanwhile. -/
def call? : Command → Option (DeviceCall × String)
  | .preview _ => none
  | .console => none
  | .ports => some (.listPorts, "listing ports")
  | .connect port => some (.connect port, "connecting to " ++ port)
  | .disconnect => some (.disconnect, "disconnecting")
  | .log => some (.fetchLog, "fetching log")
  | .send command => some (.sendCommand command, "sending command")
  | .run project file => some (.runFile project file, "starting " ++ file ++ " from " ++ project)
  | .stop => some (.stop, "stopping")
  | .pause => some (.togglePause, "toggling pause")

def logTexts (config : PanelConfig) (entries : List Entry) : List String :=
  let panel := ((Panel.new config).replace entries).1
  (List.range panel.size).filterMap panel.format?

/-- What a command reports of the device's reply. -/
def report (settings : Settings) (command : Command) (reply : DeviceReply) : List String :=
  match command, reply with
  | .ports, .ports [] => ["No ports found"]
  | .ports, .ports ps => ps.map Port.line
  | .connect port, _ => ["Connected to " ++ port]
  | .disconnect, _ => ["Disconnected"]
  | .log, .log entries => logTexts settings.console.panel entries
  | .send _, .entry e => [e.response]
  | .run _ file, _ => ["Plotting " ++ file]
  | .stop, _ => ["Stopped"]
  | .pause, _ => ["Pause toggled"]
  | _, _ => []

/-- Runs a command.  The console gets no input here. -/
def execute {σ : Type} (d : Device σ) (device : σ) (fs : FileSystem) (settings : Settings)
    (command : Command) : Execution σ :=
  match command with
  | .preview request =>
    match Plot.toFile fs request settings.preview with
    | (fs, .ok summary) => ⟨device, fs, [summary], .ok ()⟩
    | (fs, .error e) => ⟨device, fs, [], .error e⟩
  | .console =>
    let (device, groups, result) := Rehearsal.run d device settings true []
    ⟨device, fs, groups.flatten, result⟩
  | command =>
    match command.call? with
    | none => ⟨device, fs, [], .ok ()⟩
    | some (call, doing) =>
      match d.ask device call with
      | (device, .ok reply) => ⟨device, fs, command.report settings reply, .ok ()⟩
      | (device, .error e) => ⟨device, fs, [], .error ⟨[doing], .device e⟩⟩

end Command

/-- Runs a command line against the interface that its settings name; the requests have the given
outcomes. -/
def CommandLine.run (c : CommandLine) (fs : FileSystem) (d : Settings.UserDirectories)
    (outcomes : List Outcome) : Execution (List Request) :=
  match c.settings fs d with
  | .error e => ⟨[], fs, [], .error e⟩
  | .ok settings =>
    match troubled .device ["invalid device API URL"]
        (DeviceInterface.new? settings.device.baseUrl) with
    | .error e => ⟨[], fs, [], .error e⟩
    | .ok interface =>
      let x := c.command.execute networkDevice ⟨interface, outcomes, []⟩ fs settings
      ⟨x.device.requests, x.files, x.output, x.result⟩

def Execution.text {σ : Type} (x : Execution σ) : String :=
  String.join (x.output.map (· ++ "\n"))

end PenPlotter
