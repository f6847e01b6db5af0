/-! # Log entries

An entry of the session log is one exchange with the device.  Entries are told apart by their
`Entry.key`. -/

namespace PenPlotter

/-- One exchange with the device: when, what was sent, and what came back. -/
structure Entry where
  timestamp : String
  command : String
  response : String
deriving Repr, DecidableEq, Inhabited

/-- The text by which repeated deliveries of an entry are recognised. -/
def Entry.key (e : Entry) : String := e.timestamp ++ "-" ++ e.command ++ "-" ++ e.response

/-- The way on which an entry reached the log. -/
inductive Origin where
  | stream
  | localEcho
deriving Repr, DecidableEq, Inhabited

def Origin.text : Origin → String
  | .stream => "stream"
  | .localEcho => "local echo"

/-- The state of the event stream. -/
inductive StreamState where
  | disconnected
  | connecting
  | connected
deriving Repr, DecidableEq, Inhabited

def StreamState.text : StreamState → String
  | .disconnected => "Disconnected"
  | .connecting => "Connecting"
  | .connected => "Connected"

end PenPlotter
