import PenPlotter.Console.Display
import PenPlotter.Console.Input
import PenPlotter.Device.Access
import PenPlotter.Session.Dispatcher
import PenPlotter.Session.System
import PenPlotter.Trouble
import PenPlotter.Url.StreamAddress

/-! # The console

The console takes typed lines and messages of the session, one at a time.  Directives call the
device at once.  A command is handed to a task of its own, which runs at some later step; the
tasks wait in an outbox, and what is left in it when the console ends is never sent.
`Console.step` is one step, whatever comes next: a line, a message, a task, or something outside
the console. -/

namespace PenPlotter

/-- The console with all that runs beside it. -/
structure Console where
  system : System
  panel : Panel
  /-- The commands whose tasks have not run yet, in the order in which they were typed. -/
  outbox : List String
  /-- The texts printed so far. -/
  output : List String
  running : Bool
deriving Inhabited

/-- What may happen next. -/
inductive ConsoleStep where
  /-- A line was typed. -/
  | line (text : String)
  | endOfInput
  /-- The session's next message is handled. -/
  | message
  /-- The task at a place of the outbox runs. -/
  | task (index : Nat)
  /-- The peer of a connection does something. -/
  | peer (generation : Nat) (p : PeerStep)
  /-- A reconnect timer runs out. -/
  | timer (number : Nat)
  /-- The clock goes on. -/
  | pass (ms : Nat)
deriving Repr, DecidableEq, Inhabited

/-- How a console shows the log. -/
def ConsoleSettings.panel (c : ConsoleSettings) : PanelConfig :=
  ⟨c.pageSize.toNat, c.previewChars.toNat, c.followThreshold⟩

namespace Console

def print (c : Console) (texts : List String) : Console := { c with output := c.output ++ texts }

/-- Prints an event of the session. -/
def tell (c : Console) (event : SessionEvent) : Console :=
  let (panel, texts) := Display.event c.panel event c.system.client.entries
  { c with panel }.print texts

/-- The session does something that is not told. -/
def reactSilently (c : Console) (r : Reaction) : Console :=
  { c with system := (c.system.react r).1 }

def react (c : Console) (r : Reaction) : Console :=
  let c := c.reactSilently r
  r.event.elim c c.tell

/-- Handles the session's next message. -/
def handleNext (c : Console) : Console :=
  let (system, event) := c.system.handleNext
  let c := { c with system }
  event.elim c c.tell

def finish (c : Console) : Console :=
  { c.reactSilently c.system.client.stop with running := false }

section device

variable {σ : Type} (d : Device σ)

/-- Fetches the whole log. -/
def fetch (s : σ) (c : Console) : σ × Console :=
  match d.fetchLog s with
  | (s, .ok entries) => (s, c.react (c.system.client.reload entries))
  | (s, .error e) => (s, c.print ["[error] could not fetch log: " ++ e.message])

/-- Makes a call for a directive, whose name is printed when the call fails. -/
def direct (s : σ) (c : Console) (name : String) (call : DeviceCall)
    (done : Console → Console) : σ × Console :=
  match d.ask s call with
  | (s, .ok _) => (s, done c)
  | (s, .error e) => (s, c.print ["[error] " ++ name ++ ": " ++ e.message])

def takeLine (s : σ) (c : Console) (text : String) : σ × Console :=
  match ConsoleInput.ofLine text with
  | .empty => (s, c)
  | .command command => (s, { c with outbox := c.outbox ++ [command] })
  | .stop => direct d s c "stop" .stop id
  | .pause => direct d s c "pause" .togglePause id
  | .clear => direct d s c "clear" .clearLog fun c => c.react c.system.client.clear
  | .reload => fetch d s c
  | .help => (s, c.print Display.help)
  | .quit => (s, c.finish)
  | .unknown text => (s, c.print ["unknown directive " ++ text ++ ", try /help"])

/-- Sends a command.  Its answer goes to the session, its failure is printed. -/
def send (s : σ) (c : Console) (command : String) : σ × Console :=
  let (s, answer) := d.sendCommand s command
  let c := match Dispatcher.echo? answer with
    | some m => { c with system := c.system.enqueue m }
    | none => c
  match Dispatcher.failure? command answer with
  | some event => (s, c.print (Display.failure? (.session event)).toList)
  | none => (s, c)

/-- Runs the task at a place of the outbox. -/
def runTask (s : σ) (c : Console) (index : Nat) : σ × Console :=
  match c.outbox[index]? with
  | some command => send d s { c with outbox := c.outbox.eraseIdx index } command
  | none => (s, c)

/-- One step; a console that has ended does nothing. -/
def step (s : σ) (c : Console) (next : ConsoleStep) : σ × Console :=
  if !c.running then (s, c)
  else
    match next with
    | .line text => takeLine d s c text
    | .endOfInput => (s, c.finish)
    | .message => (s, c.handleNext)
    | .task index => runTask d s c index
    | .peer generation p => (s, { c with system := c.system.peerStep generation p })
    | .timer number => (s, { c with system := c.system.fire number })
    | .pass ms => (s, { c with system := c.system.pass ms })

/-- Takes steps one after the other. -/
def steps (s : σ) (c : Console) (next : List ConsoleStep) : σ × Console :=
  next.foldl (fun (s, c) x => step d s c x) (s, c)

/-- Opens the console: the log is fetched, the session is started, and the directives are
shown. -/
def begin? (s : σ) (settings : Settings) : σ × Except Trouble Console :=
  if !StreamAddress.isValid settings.stream.url then
    (s, .error ⟨["invalid event stream URL"], .connection (.invalidUrl settings.stream.url)⟩)
  else
    let system := System.new settings.stream.reconnectDelay.toNat settings.stream.seenCapacity.toNat
    let (s, c) := fetch d s ⟨system, Panel.new settings.console.panel, [], [], true⟩
    let c := c.reactSilently c.system.client.start
    (s, .ok (c.print Display.help))

end device

end Console

end PenPlotter
