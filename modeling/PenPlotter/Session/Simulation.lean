import PenPlotter.Session.Dispatcher
import PenPlotter.Session.System

/-! # Sessions with a simulated peer

A simulation runs a session against a peer that can be told what to do: to refuse connections,
to send texts, to break the stream or to end it.  The peer accepts every connection it does not
refuse, and talks on the one that was opened last.  After each operation the connection tasks
and timers go on until nothing more can happen at the time of the clock. -/

namespace PenPlotter

/-- A session and its simulated peer. -/
structure Simulation where
  system : System
  /-- Whether the client still exists. -/
  alive : Bool
  refusing : Bool
  /-- The generation of the connection on which the peer talks. -/
  feed : Option Nat
  /-- How many connections were attempted. -/
  attempts : Nat
deriving Inhabited

namespace Simulation

/-- A session that was not started. -/
def new (reconnectDelay capacity : Nat) : Simulation :=
  ⟨System.new reconnectDelay capacity, true, false, none, 0⟩

/-- The reason of a refused connection. -/
def refusal : ConnectionError := .failedToOpen "" "connection refused"

def peer (s : Simulation) (generation : Nat) (p : PeerStep) : Simulation :=
  if s.alive then { s with system := s.system.peerStep generation p }
  else { s with system := s.system.setTask generation none }

/-- A connection is attempted; one that opens replaces the one on which the peer talked. -/
def dial (s : Simulation) (generation : Nat) : Simulation :=
  let s := { s with attempts := s.attempts + 1 }
  if s.refusing then s.peer generation (.refuse refusal.message)
  else
    let opened := { s.peer generation .accept with feed := some generation }
    match s.feed with
    | some old => opened.peer old .finish
    | none => opened

/-- Everything happens that can happen now. -/
def settle (s : Simulation) : Simulation :=
  let dialing := (s.system.tasks.filter (!·.reading)).map (·.generation)
  let s := dialing.foldl dial s
  let due := (s.system.timers.filter (·.deadline ≤ s.system.now)).map (·.number)
  { s with system := due.foldl System.fire s.system }

def react (s : Simulation) (r : Reaction) : Simulation × Option SessionEvent :=
  let (system, event) := s.system.react r
  (settle { s with system }, event)

/-- All waiting messages are handled. -/
def drain (s : Simulation) : Simulation × List SessionEvent :=
  let (system, events) := s.system.drain
  (settle { s with system }, events)

/-- A message is put into the queue; tells whether there is a client to handle it. -/
def enqueue (s : Simulation) (m : Message) : Simulation × Bool :=
  if s.alive then ({ s with system := s.system.enqueue m }, true) else (s, false)

/-- A command is answered: the event that is published. -/
def dispatch (s : Simulation) (command : String) (answer : Except DeviceError Entry) :
    Simulation × Option SessionEvent :=
  let s := match Dispatcher.echo? answer with
    | some m => (s.enqueue m).1
    | none => s
  (s, Dispatcher.failure? command answer)

/-- The peer says something on the open feed; tells whether anyone was there to read it. -/
def say (s : Simulation) (p : PeerStep) : Simulation × Bool :=
  match s.feed with
  | none => (s, false)
  | some g =>
    if s.system.tasks.any (·.generation == g) then ((s.peer g p).settle, true) else (s, false)

/-- The peer ends the feed; tells whether there was one. -/
def close (s : Simulation) : Simulation × Bool :=
  match s.feed with
  | none => (s, false)
  | some g => (({ s with feed := none }.peer g .finish).settle, true)

def advance (s : Simulation) (ms : Nat) : Simulation :=
  settle { s with system := s.system.pass ms }

def drop (s : Simulation) : Simulation := { s with system := s.system.drop, alive := false }

/-- How long waiting for an event lasts at most, in milliseconds. -/
def patience : Nat := 3600000

/-- Goes on to the earliest deadline before the limit. -/
def toNextTimer? (s : Simulation) (limit : Nat) : Option Simulation :=
  match (s.system.timers.map (·.deadline)).min? with
  | none => none
  | some deadline =>
    if deadline < limit then some (s.advance (deadline - s.system.now)) else none

/-- Handles messages until one of them is an event, letting the clock go on while none is
waiting; none when nothing happens before the limit. -/
def pumpUntil (limit : Nat) (s : Simulation) : Nat → Simulation × Option SessionEvent
  | 0 => (s, none)
  | fuel + 1 =>
    match s.system.queue with
    | [] =>
      match s.toNextTimer? limit with
      | some s' => pumpUntil limit s' fuel
      | none => (s.advance (limit - s.system.now), none)
    | _ =>
      let (system, event) := s.system.handleNext
      let s' := settle { s with system }
      match event with
      | some e => (s', some e)
      | none => pumpUntil limit s' fuel

/-- Waits for the next event.  A message without an event opens no connection and arms at most
one timer, which in turn sends one message; so there are at most four steps for each message,
timer and connection that is there. -/
def pump (s : Simulation) : Simulation × Option SessionEvent :=
  s.pumpUntil (s.system.now + patience)
    (4 * (s.system.queue.length + s.system.timers.length + s.system.tasks.length) + 4)

end Simulation

end PenPlotter
