import PenPlotter.Event.Basic
import PenPlotter.Session.Log
import PenPlotter.Session.StreamMessage

/-! # The session client

The client keeps the log, the state of the event stream and the handles of the one connection
and the one reconnect timer that it holds.  It changes only when it is told to and when it
handles a message.  A connection is known by its generation; messages of another generation than
the current one are dropped.

Each operation gives a `Reaction`: the client afterwards, the event that is published, and what
has to be done to connections and timers.  What connections and timers do in turn is described
in `PenPlotter.Session.System`. -/

namespace PenPlotter

/-- What connections, timers and the dispatcher tell the client. -/
inductive Message where
  /-- The connection of a generation is open. -/
  | opened (generation : Nat)
  /-- A text came in. -/
  | payload (generation : Nat) (text : String)
  /-- The connection has ended, or could not be opened. -/
  | closed (generation : Nat) (reason : String)
  /-- A reconnect timer ran out. -/
  | reconnectDue
  /-- The device has answered a command directly. -/
  | localEcho (entry : Entry)
deriving Repr, DecidableEq, Inhabited

/-- What the client has done to its connections and timers. -/
inductive Effect where
  | openConnection (generation : Nat)
  | abortConnection (generation : Nat)
  /-- Arms a timer; timers are numbered. -/
  | armTimer (number : Nat)
  | abortTimer (number : Nat)
deriving Repr, DecidableEq, Inhabited

/-- The state of a session. -/
structure Client where
  /-- How long to wait before connecting again, in milliseconds. -/
  reconnectDelay : Nat
  log : SessionLog
  state : StreamState
  running : Bool
  generation : Nat
  /-- The generation of the connection that is held. -/
  connection : Option Nat
  /-- The number of the reconnect timer that is held. -/
  reconnect : Option Nat
  /-- How many timers were armed so far. -/
  timersArmed : Nat
deriving Inhabited

/-- What an operation on the client brings about. -/
structure Reaction where
  client : Client
  event : Option SessionEvent
  effects : List Effect
deriving Inhabited

namespace Client

/-- The usual wait before connecting again, in milliseconds. -/
def defaultReconnectDelay : Nat := 5000

/-- The usual number of keys kept for recognising repeated entries. -/
def defaultCapacity : Nat := 1000

/-- A session that was not started. -/
def new (reconnectDelay capacity : Nat) : Client :=
  { reconnectDelay, log := SessionLog.new capacity, state := .disconnected, running := false
    generation := 0, connection := none, reconnect := none, timersArmed := 0 }

def entries (c : Client) : List Entry := c.log.entries

/-- Nothing happens. -/
def idle (c : Client) : Reaction := ⟨c, none, []⟩

/-- Goes to another state of the stream; staying in a state is no event. -/
def setState (c : Client) (state : StreamState) : Client × Option SessionEvent :=
  if c.state = state then (c, none) else ({ c with state }, some (.stateChanged state))

/-- Opens a connection of a new generation, unless there is one already. -/
def connect (c : Client) : Reaction :=
  if c.state ≠ .disconnected ∨ c.connection.isSome then c.idle
  else
    let generation := c.generation + 1
    let (c', event) := setState { c with generation, connection := some generation } .connecting
    ⟨c', event, [.openConnection generation]⟩

/-- Arms a reconnect timer if the session runs and holds none. -/
def scheduleReconnect (c : Client) : Client × List Effect :=
  if c.running && c.reconnect.isNone then
    ({ c with reconnect := some c.timersArmed, timersArmed := c.timersArmed + 1 },
      [.armTimer c.timersArmed])
  else (c, [])

def start (c : Client) : Reaction :=
  if c.running then c.idle else connect { c with running := true }

/-- Stops the session: the connection and the timer that are held are aborted, and what they
have sent belongs to an old generation from now on. -/
def stop (c : Client) : Reaction :=
  if !c.running && c.connection.isNone && c.reconnect.isNone then c.idle
  else
    let effects := (c.connection.map Effect.abortConnection).toList
      ++ (c.reconnect.map Effect.abortTimer).toList
    let (c', event) := setState
      { c with running := false, connection := none, reconnect := none,
               generation := c.generation + 1 } .disconnected
    ⟨c', event, effects⟩

def reload (c : Client) (entries : List Entry) : Reaction :=
  let log := c.log.replace entries
  ⟨{ c with log }, some (.logReloaded log.size), []⟩

def clear (c : Client) : Reaction := ⟨{ c with log := c.log.clear }, some .logCleared, []⟩

/-- Takes an entry into the log. -/
def merge (c : Client) (entry : Entry) (origin : Origin) : Reaction :=
  match c.log.merge entry with
  | (_, false) => c.idle
  | (log, true) => ⟨{ c with log }, some (.entryAppended entry origin), []⟩

/-- Takes the entry of a stream message into the log; other messages are dropped. -/
def handlePayload (c : Client) (text : String) : Reaction :=
  match StreamMessage.read text with
  | .ok (some entry) => c.merge entry .stream
  | _ => c.idle

def handle (c : Client) : Message → Reaction
  | .opened generation =>
    if generation ≠ c.generation then c.idle
    else
      let (c', event) := c.setState .connected
      ⟨c', event, []⟩
  | .payload generation text =>
    if generation ≠ c.generation then c.idle else c.handlePayload text
  | .closed generation _ =>
    if generation ≠ c.generation then c.idle
    else
      let (c', event) := setState { c with connection := none } .disconnected
      let (c'', effects) := c'.scheduleReconnect
      ⟨c'', event, effects⟩
  | .reconnectDue =>
    let c' := { c with reconnect := none }
    if c.running then c'.connect else c'.idle
  | .localEcho entry => c.merge entry .localEcho

/-- The client as diagnostics show it. -/
def text (c : Client) : String :=
  "SessionLogClient \x7b state: " ++ c.state.text ++ ", running: " ++ toString c.running
    ++ ", generation: " ++ toString c.generation ++ ", entries: " ++ toString c.log.size
    ++ ", pending_reconnect: " ++ toString c.reconnect.isSome ++ " \x7d"

end Client

end PenPlotter
