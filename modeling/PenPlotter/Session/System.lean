import PenPlotter.Session.Client

/-! # Sessions with their connections and timers

A `System` is a client together with the connection tasks it has opened, the reconnect timers it
has armed, the queue of messages that they send, and a clock in milliseconds.  Tasks and timers
only ever append to the queue, the client only ever takes from its head.  An aborted task or
timer is gone.  A task that the client no longer holds lives on until its peer ends it. -/

namespace PenPlotter

/-- What the peer of a connection does next. -/
inductive PeerStep where
  /-- The connection cannot be opened. -/
  | refuse (reason : String)
  /-- The connection opens. -/
  | accept
  /-- A text comes in. -/
  | text (s : String)
  /-- The stream breaks. -/
  | fail (e : ConnectionError)
  /-- The stream ends. -/
  | finish
deriving Repr, DecidableEq, Inhabited

/-- A connection task that is alive. -/
structure ConnectionTask where
  generation : Nat
  /-- Whether the connection is open. -/
  reading : Bool
deriving Repr, DecidableEq, Inhabited

/-- A reconnect timer that is armed. -/
structure Timer where
  number : Nat
  deadline : Nat
deriving Repr, DecidableEq, Inhabited

/-- A client and all that sends messages to it. -/
structure System where
  client : Client
  /-- The messages not handled yet, the next one first. -/
  queue : List Message
  tasks : List ConnectionTask
  timers : List Timer
  now : Nat
deriving Inhabited

/-- What a task does in answer to its peer: the message it sends and the task afterwards. -/
def ConnectionTask.answer? (t : ConnectionTask) : PeerStep → Option (Message × Option ConnectionTask)
  | .refuse reason => if t.reading then none else some (.closed t.generation reason, none)
  | .accept =>
    if t.reading then none else some (.opened t.generation, some { t with reading := true })
  | .text s => if t.reading then some (.payload t.generation s, some t) else none
  | .fail e => if t.reading then some (.closed t.generation e.message, none) else none
  | .finish => if t.reading then some (.closed t.generation "stream ended", none) else none

namespace System

/-- A session that was not started. -/
def new (reconnectDelay capacity : Nat) : System :=
  ⟨Client.new reconnectDelay capacity, [], [], [], 0⟩

def carryOut (s : System) : Effect → System
  | .openConnection generation => { s with tasks := s.tasks ++ [⟨generation, false⟩] }
  | .abortConnection generation =>
    { s with tasks := s.tasks.filter (·.generation != generation) }
  | .armTimer number =>
    { s with timers := s.timers ++ [⟨number, s.now + s.client.reconnectDelay⟩] }
  | .abortTimer number => { s with timers := s.timers.filter (·.number != number) }

/-- Takes a reaction of the client over. -/
def react (s : System) (r : Reaction) : System × Option SessionEvent :=
  (r.effects.foldl carryOut { s with client := r.client }, r.event)

/-- Puts a message at the end of the queue. -/
def enqueue (s : System) (m : Message) : System := { s with queue := s.queue ++ [m] }

/-- The client handles the next message, if there is one. -/
def handleNext (s : System) : System × Option SessionEvent :=
  match s.queue with
  | [] => (s, none)
  | m :: rest => react { s with queue := rest } (s.client.handle m)

/-- Handles a given number of messages; gives the events. -/
def handleMany (s : System) : Nat → System × List SessionEvent
  | 0 => (s, [])
  | n + 1 =>
    let (s', event) := s.handleNext
    let (s'', events) := s'.handleMany n
    (s'', event.toList ++ events)

/-- Handles all messages that are waiting. -/
def drain (s : System) : System × List SessionEvent := s.handleMany s.queue.length

/-- Replaces the task of a generation, or removes it. -/
def setTask (s : System) (generation : Nat) (task : Option ConnectionTask) : System :=
  { s with tasks := s.tasks.flatMap fun t => if t.generation = generation then task.toList else [t] }

def peerStep (s : System) (generation : Nat) (p : PeerStep) : System :=
  match s.tasks.find? (·.generation == generation) with
  | none => s
  | some t =>
    match t.answer? p with
    | none => s
    | some (m, task) => (s.setTask generation task).enqueue m

/-- A timer runs out, if its time has come. -/
def fire (s : System) (number : Nat) : System :=
  match s.timers.find? (·.number == number) with
  | some t =>
    if t.deadline ≤ s.now then
      enqueue { s with timers := s.timers.filter (·.number != number) } .reconnectDue
    else s
  | none => s

/-- The clock goes on. -/
def pass (s : System) (ms : Nat) : System := { s with now := s.now + ms }

/-- The client is gone, and what it held is aborted. -/
def drop (s : System) : System :=
  let s := (s.client.connection.map fun g => s.carryOut (.abortConnection g)).getD s
  (s.client.reconnect.map fun n => s.carryOut (.abortTimer n)).getD s

end System

end PenPlotter
