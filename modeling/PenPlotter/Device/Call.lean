import PenPlotter.Json.Reading
import PenPlotter.Session.EntryJson

/-! # Calls to the device

What the device can be asked, what it answers, and the request that each call makes. -/

namespace PenPlotter

open Json

/-- A serial port that a plotter may be connected to. -/
structure Port where
  device : String
  description : String
deriving Repr, DecidableEq, Inhabited

namespace Port

def toJson (p : Port) : Json :=
  .object [("device", .string p.device), ("description", .string p.description)]

/-- Reads a port; the description may be left out. -/
def ofTree? (t : Tree) : Option Port := do
  let f ← t.record? ["device", "description"]
  some ⟨← f.required "device" Tree.string?, ← f.orDefault "description" "" Tree.string?⟩

def line (p : Port) : String :=
  if p.description.isEmpty then p.device else p.device ++ "\t" ++ p.description

end Port

/-- What the device can be asked. -/
inductive DeviceCall where
  | connect (port : String)
  | disconnect
  | listPorts
  | fetchLog
  | clearLog
  | sendCommand (command : String)
  /-- Plots a file of a project. -/
  | runFile (project file : String)
  | stop
  | togglePause
deriving Repr, DecidableEq, Inhabited

/-- What the device answers. -/
inductive DeviceReply where
  | done
  | ports (ps : List Port)
  | log (entries : List Entry)
  | entry (e : Entry)
deriving Repr, DecidableEq, Inhabited

/-- The methods of requests. -/
inductive Method where
  | get
  | post
  | delete
deriving Repr, DecidableEq, Inhabited

def Method.name : Method → String
  | .get => "GET"
  | .post => "POST"
  | .delete => "DELETE"

namespace DeviceCall

/-- The path of a call's request under the base address. -/
def endpoint : DeviceCall → String
  | .connect _ => "/plotter/connect"
  | .disconnect => "/plotter/disconnect"
  | .listPorts => "/plotter/ports"
  | .fetchLog => "/plotter/log"
  | .clearLog => "/plotter/log"
  | .sendCommand _ => "/plotter/command"
  | .runFile project _ => "/projects/" ++ project ++ "/run"
  | .stop => "/plotter/stop"
  | .togglePause => "/plotter/pause"

/-- The method of a call's request. -/
def method : DeviceCall → Method
  | .listPorts => .get
  | .fetchLog => .get
  | .clearLog => .delete
  | _ => .post

/-- The body of a call's request, if there is one. -/
def body? : DeviceCall → Option Json
  | .connect port => some (.object [("port", .string port)])
  | .sendCommand command => some (.object [("command", .string command)])
  | .runFile _ file => some (.object [("file_name", .string file)])
  | _ => none

/-- What a call's response has to hold, if anything. -/
def readReply? (call : DeviceCall) (body : Option Tree) : Option DeviceReply :=
  match call with
  | .listPorts => (body.bind (·.list? Port.ofTree?)).map .ports
  | .fetchLog => (body.bind (·.list? Entry.ofTree?)).map .log
  | .sendCommand _ => (body.bind Entry.ofTree?).map .entry
  | _ => some .done

end DeviceCall

end PenPlotter
