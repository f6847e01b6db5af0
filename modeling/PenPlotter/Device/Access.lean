import PenPlotter.Device.Interface

/-! # Access to a device

A `Device` answers calls one after the other and may change with each.  There are two: the
interface on the network with the outcomes that its requests will have, and a script of replies
that was written beforehand. -/

namespace PenPlotter

/-- A way to call a device whose state is a `σ`. -/
structure Device (σ : Type) where
  ask : σ → DeviceCall → σ × Except DeviceError DeviceReply

namespace Device

variable {σ : Type} (d : Device σ)

/-- What a reply lacks that is not what was asked for. -/
def mismatch {α : Type} (call : DeviceCall) : Except DeviceError α :=
  .error (.decode call.endpoint "not what was asked for")

def fetchLog (s : σ) : σ × Except DeviceError (List Entry) :=
  let (s, reply) := d.ask s .fetchLog
  (s, match reply with
    | .ok (.log entries) => .ok entries
    | .ok _ => mismatch .fetchLog
    | .error e => .error e)

def sendCommand (s : σ) (command : String) : σ × Except DeviceError Entry :=
  let (s, reply) := d.ask s (.sendCommand command)
  (s, match reply with
    | .ok (.entry e) => .ok e
    | .ok _ => mismatch (.sendCommand command)
    | .error e => .error e)

end Device

/-! ### The interface on the network -/

/-- An interface, the outcomes of its next requests and the requests made so far. -/
structure Exchange where
  interface : DeviceInterface
  outcomes : List Outcome
  requests : List Request
deriving Repr, Inhabited

/-- Makes a call; without a further outcome its request is lost. -/
def Exchange.ask (x : Exchange) (call : DeviceCall) :
    Exchange × Except DeviceError DeviceReply :=
  let (request, reply) := x.interface.perform call (x.outcomes.headD .lost)
  match request with
  | none => (x, reply)
  | some r => ({ x with outcomes := x.outcomes.tail, requests := x.requests ++ [r] }, reply)

def networkDevice : Device Exchange := ⟨Exchange.ask⟩

/-! ### Scripts -/

namespace DeviceCall

def name : DeviceCall → String
  | .connect _ => "connect"
  | .disconnect => "disconnect"
  | .listPorts => "list_ports"
  | .fetchLog => "fetch_log"
  | .clearLog => "clear_log"
  | .sendCommand _ => "send_command"
  | .runFile _ _ => "run_file"
  | .stop => "stop"
  | .togglePause => "toggle_pause"

/-- The texts that a call hands over. -/
def arguments : DeviceCall → List String
  | .connect port => [port]
  | .sendCommand command => [command]
  | .runFile project file => [project, file]
  | _ => []

/-- The reply of a device that has nothing to tell. -/
def plainReply : DeviceCall → DeviceReply
  | .listPorts => .ports []
  | .fetchLog => .log []
  | .sendCommand command => .entry ⟨"T", command, "ok"⟩
  | _ => .done

end DeviceCall

/-- Replies that were written beforehand, for each name of a call, and the calls made so far. -/
structure DeviceScript where
  replies : List (String × List (DeviceCall → Except DeviceError DeviceReply))
  calls : List DeviceCall

namespace DeviceScript

/-- The next reply for a name, and the replies without it. -/
def takeReply (name : String) :
    List (String × List (DeviceCall → Except DeviceError DeviceReply)) →
    Option (DeviceCall → Except DeviceError DeviceReply) ×
      List (String × List (DeviceCall → Except DeviceError DeviceReply))
  | [] => (none, [])
  | (n, replies) :: rest =>
    if n = name then (replies.head?, (n, replies.tail) :: rest)
    else
      let (reply, rest) := takeReply name rest
      (reply, (n, replies) :: rest)

/-- Makes a call; without a further reply the device has nothing to tell. -/
def ask (s : DeviceScript) (call : DeviceCall) :
    DeviceScript × Except DeviceError DeviceReply :=
  let (reply, replies) := takeReply call.name s.replies
  (⟨replies, s.calls ++ [call]⟩, (reply.getD fun call => .ok call.plainReply) call)

end DeviceScript

def scriptedDevice : Device DeviceScript := ⟨DeviceScript.ask⟩

end PenPlotter
