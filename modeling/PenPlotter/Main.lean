import PenPlotter.CommandLine.Execution

/-! # The program

Reads arguments, settings and programs from the outside and writes plots to it.  Everything else
is decided by `PenPlotter.CommandLine`.  There is no network here: every request to the device is
lost, and every attempt to follow the event stream is refused. -/

namespace PenPlotter.Program

/-- What is at a location, if anything. -/
def look (l : Location) : IO (Option FileNode) := do
  try
    let content ← IO.FS.readBinFile l.text
    return some (.file (.bytes content.toList))
  catch e =>
    match e with
    | .noFileOrDirectory .. => return none
    | _ => return some .directory

/-- The locations that a command line reads or writes. -/
def locations (c : CommandLine) (d : Settings.UserDirectories) : List Location :=
  let settings := match c.settingsFile with
    | some l => some l
    | none => (Settings.usualPlace d).toOption
  let plot := match c.command with
    | .preview request => [request.source, request.target]
    | _ => []
  settings.toList ++ plot

/-- The file system as far as a command line needs it. -/
def snapshot (c : CommandLine) (d : Settings.UserDirectories) : IO FileSystem := do
  let mut nodes := []
  for l in locations c d do
    match ← look l with
    | some node => nodes := nodes ++ [(l, node)]
    | none => pure ()
  let fs := FileSystem.ofList nodes
  match c.command with
  | .preview request => return (fs.makeParent request.target).1
  | _ => return fs

/-- Writes the plot that a command has made. -/
def writePlot (c : CommandLine) (fs : FileSystem) : IO (Except Trouble Unit) := do
  match c.command with
  | .preview request =>
    match fs.readText request.target with
    | .ok svg =>
      try
        IO.FS.writeFile request.target.text svg
        return .ok ()
      catch e => return .error ⟨["writing " ++ request.target.text], .text (toString e)⟩
    | .error _ => return .ok ()
  | _ => return .ok ()

/-- Performs cues as lines are typed, until the console ends. -/
partial def converse (r : Rehearsal Exchange) : IO Unit := do
  let (lines, r) := r.takeLines
  lines.forM IO.println
  if r.console.running then
    let line ← (← IO.getStdin).getLine
    converse (r.perform networkDevice (if line.isEmpty then .endOfInput else .typed line))

def runConsole (interface : DeviceInterface) (settings : Settings) : IO (Except Trouble Unit) := do
  match Console.begin? networkDevice ⟨interface, [], []⟩ settings with
  | (_, .error e) => return .error e
  | (device, .ok console) =>
    let peer := { Simulation.new 0 0 with refusing := true }
    converse (.calm networkDevice (.withPeer ⟨device, console, peer⟩ Simulation.settle))
    return .ok ()

def run (c : CommandLine) : IO (Except Trouble Unit) := do
  let home := (← IO.getEnv "HOME").getD ""
  let d : Settings.UserDirectories := ⟨← IO.getEnv "XDG_CONFIG_HOME", home⟩
  let fs ← snapshot c d
  match c.command, c.settings fs d with
  | .console, .ok settings =>
    match DeviceInterface.new? settings.device.baseUrl with
    | .ok interface => runConsole interface settings
    | .error e => return .error ⟨["invalid device API URL"], .device e⟩
  | _, _ =>
    let x := c.run fs d []
    let written ← if x.result.isOk then writePlot c x.files else pure (.ok ())
    if written.isOk then IO.print x.text
    return x.result.bind fun _ => written

def usage : String :=
  "Usage: polarplot [OPTIONS] <COMMAND>\nCommands: "
    ++ ", ".intercalate CommandLine.rootGrammar.subcommands

end PenPlotter.Program

open PenPlotter Program in
def main (args : List String) : IO UInt32 := do
  match CommandLine.ofArguments args with
  | .error e =>
    if e.exitCode = 0 then IO.println usage else IO.eprintln ("error: " ++ e.name ++ "\n" ++ usage)
    return e.exitCode.toUInt32
  | .ok c =>
    match ← run c with
    | .ok () => return 0
    | .error e =>
      IO.eprintln ("Error: " ++ e.message)
      return 1
