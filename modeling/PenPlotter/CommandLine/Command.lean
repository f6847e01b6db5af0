import PenPlotter.CommandLine.Arguments
import PenPlotter.Preview.Plot

/-! # The command line

The commands of the program and the options that all of them share, and how both are read from
arguments. -/

namespace PenPlotter

/-- How diagnostics are written. -/
inductive LogFormat where
  | pretty
  | json
deriving Repr, DecidableEq, Inhabited

/-- The commands. -/
inductive Command where
  /-- Draws a program into a file. -/
  | preview (request : PlotRequest)
  | console
  | ports
  | connect (port : String)
  | disconnect
  | log
  | send (command : String)
  | run (project file : String)
  | stop
  | pause
deriving Repr, Inhabited

/-- A command with the shared options. -/
structure CommandLine where
  settingsFile : Option Location
  deviceUrl : Option String
  streamUrl : Option String
  logFormat : LogFormat
  command : Command
deriving Repr, Inhabited

namespace CommandLine

def logFormats : List String := ["pretty", "json"]

/-- The options that may stand before and after the name of a command. -/
def sharedOptions : List OptionRule :=
  [⟨"config", none, .value .location false⟩, ⟨"api-url", none, .value .text false⟩,
    ⟨"stream-url", none, .value .text false⟩,
    ⟨"log-format", none, .value (.oneOf logFormats) false⟩, ⟨"help", some 'h', .help⟩]

def previewOptions : List OptionRule :=
  [⟨"output", some 'o', .value .location false⟩, ⟨"paper", none, .value .text false⟩,
    ⟨"landscape", none, .flag⟩, ⟨"width", none, .value .whole false⟩,
    ⟨"height", none, .value .whole false⟩, ⟨"zoom", none, .value .number false⟩,
    ⟨"pan-x", none, .value .number true⟩, ⟨"pan-y", none, .value .number true⟩]

def previewGrammar : Grammar := ⟨previewOptions ++ sharedOptions, [("file", .location)], []⟩

/-- What a command with texts as its only arguments takes. -/
def plainGrammar (names : List String) : Grammar :=
  ⟨sharedOptions, names.map fun name => (name, .text), []⟩

def grammars : List (String × Grammar) :=
  [("preview", previewGrammar), ("console", plainGrammar []), ("ports", plainGrammar []),
    ("connect", plainGrammar ["port"]), ("disconnect", plainGrammar []),
    ("log", plainGrammar []), ("send", plainGrammar ["command"]),
    ("run", plainGrammar ["project", "file"]), ("stop", plainGrammar []),
    ("pause", plainGrammar [])]

/-- The word that asks for help. -/
def helpWord : String := "help"

/-- What may stand before the name of a command. -/
def rootGrammar : Grammar :=
  ⟨⟨"version", some 'V', .version⟩ :: sharedOptions, [], grammars.map (·.1) ++ [helpWord]⟩

/-- What asking for help about words leads to: each has to be a command of the one before. -/
def helpAbout : List String → UsageError
  | [] => .displayHelp
  | [topic] => if rootGrammar.subcommands.contains topic then .displayHelp else .invalidSubcommand
  | _ => .invalidSubcommand

def plotRequest (s : Scan) : PlotRequest :=
  let number := fun (name : String) (usual : Float) =>
    ((s.get? name).bind floatOfText?).getD usual
  { source := ⟨(s.get? "file").getD ""⟩
    target := ⟨(s.get? "output").getD "preview.svg"⟩
    paper := s.get? "paper"
    landscape := (s.get? "landscape").isSome
    width := (s.get? "width").bind wholeOf?
    height := (s.get? "height").bind wholeOf?
    zoom := number "zoom" 1.0
    pan := ⟨number "pan-x" 0.0, number "pan-y" 0.0⟩ }

def commandOf (name : String) (s : Scan) : Command :=
  let text := fun (key : String) => (s.get? key).getD ""
  match name with
  | "preview" => .preview (plotRequest s)
  | "console" => .console
  | "ports" => .ports
  | "connect" => .connect (text "port")
  | "disconnect" => .disconnect
  | "log" => .log
  | "send" => .send (text "command")
  | "run" => .run (text "project") (text "file")
  | "stop" => .stop
  | _ => .pause

/-- The options found after the name of a command, or else before it. -/
def ofScans (root : Scan) (name : String) (sub : Scan) : CommandLine :=
  let shared := fun (key : String) => (sub.get? key).or (root.get? key)
  { settingsFile := (shared "config").map Location.mk
    deviceUrl := shared "api-url"
    streamUrl := shared "stream-url"
    logFormat := if shared "log-format" = some "json" then .json else .pretty
    command := commandOf name sub }

def ofArguments (args : List String) : Except UsageError CommandLine := do
  let (root, rest) ← Scan.all rootGrammar .start args
  match rest with
  | some (name, args) =>
    if name = helpWord then throw (helpAbout args)
    let sub ← Scan.complete ((grammars.lookup name).getD default) args
    return ofScans (← root.flush) name sub
  | none =>
    let root ← root.flush
    throw (if root.values.isEmpty then .helpOnMissing else .missingSubcommand)

end CommandLine

end PenPlotter
