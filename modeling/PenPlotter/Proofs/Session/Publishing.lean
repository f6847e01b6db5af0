import PenPlotter.Proofs.Session.Announcement

/-! # What a session publishes

The client of a session gives some of its events back to its caller, and publishes all of them.
`Told` is a program that publishes: it has a value, and the notices that it put on the bus in their
order, each with the state and the entries of the session at that time.

The operations of the client and the calls of a session are written again as such programs, with
`announce` exactly where an event is published.  For every operation `op` the equation `opT_eq`
says that the program has the reaction of `op` for its value and publishes the event of the
reaction; only starting and stopping give no event back (`startT_eq`, `stopT_eq`).

A session is called while its tasks and timers go on: between two messages that `pump` or `drain`
take, more may come in (`System.Call`).  Without that the calls are those of the session
(`runT_act_val`, `pumpT_replicate`, `drainT_nil`). -/

namespace PenPlotter

/-- What a session shows: the state of its stream and its log. -/
structure SessionView where
  state : StreamState
  entries : List Entry
deriving Repr, DecidableEq, Inhabited

/-- An event on the bus, with the session as it was then. -/
structure Notice where
  event : SessionEvent
  view : SessionView
deriving Repr, DecidableEq, Inhabited

/-- A program that publishes. -/
structure Told (α : Type) where
  val : α
  notices : List Notice

namespace Told

instance : Monad Told where
  pure a := ⟨a, []⟩
  bind t f := ⟨(f t.val).val, t.notices ++ (f t.val).notices⟩

variable {α β : Type}

theorem pure_eq (a : α) : (pure a : Told α) = ⟨a, []⟩ := rfl

theorem bind_eq (t : Told α) (f : α → Told β) :
    (t >>= f) = ⟨(f t.val).val, t.notices ++ (f t.val).notices⟩ := rfl

end Told

/-! ### The client -/

namespace Client

variable (c : Client)

def view : SessionView := ⟨c.state, c.entries⟩

/-- Puts an event on the bus. -/
def announce (event : SessionEvent) : Told Unit := ⟨(), [⟨event, c.view⟩]⟩

/-- Goes to another state of the stream. -/
def setStateT (state : StreamState) : Told (Client × Option SessionEvent) :=
  if c.state = state then pure (c, none)
  else do
    let c' := { c with state }
    c'.announce (.stateChanged state)
    pure (c', some (.stateChanged state))

/-- Opens a connection of a new generation, unless there is one already. -/
def connectT : Told Reaction :=
  if c.state ≠ .disconnected ∨ c.connection.isSome then pure c.idle
  else do
    let generation := c.generation + 1
    let (c', event) ← setStateT { c with generation, connection := some generation } .connecting
    pure ⟨c', event, [.openConnection generation]⟩

/-- Starts the session; what `connectT` gives back is dropped. -/
def startT : Told Reaction :=
  if c.running then pure c.idle
  else do
    let r ← connectT { c with running := true }
    pure { r with event := none }

/-- Stops the session; what `setStateT` gives back is dropped. -/
def stopT : Told Reaction :=
  if !c.running && c.connection.isNone && c.reconnect.isNone then pure c.idle
  else do
    let effects := (c.connection.map Effect.abortConnection).toList
      ++ (c.reconnect.map Effect.abortTimer).toList
    let (c', _) ← setStateT
      { c with running := false, connection := none, reconnect := none,
               generation := c.generation + 1 } .disconnected
    pure ⟨c', none, effects⟩

def reloadT (entries : List Entry) : Told Reaction := do
  let c' := { c with log := c.log.replace entries }
  c'.announce (.logReloaded c'.log.size)
  pure ⟨c', some (.logReloaded c'.log.size), []⟩

def clearT : Told Reaction := do
  let c' := { c with log := c.log.clear }
  c'.announce .logCleared
  pure ⟨c', some .logCleared, []⟩

/-- Takes an entry into the log. -/
def mergeT (entry : Entry) (origin : Origin) : Told Reaction :=
  match c.log.merge entry with
  | (_, false) => pure c.idle
  | (log, true) => do
    let c' := { c with log }
    c'.announce (.entryAppended entry origin)
    pure ⟨c', some (.entryAppended entry origin), []⟩

/-- Takes the entry of a stream message into the log. -/
def handlePayloadT (text : String) : Told Reaction :=
  match StreamMessage.read text with
  | .ok (some entry) => c.mergeT entry .stream
  | _ => pure c.idle

def handleT : Message → Told Reaction
  | .opened generation =>
    if generation ≠ c.generation then pure c.idle
    else do
      let (c', event) ← c.setStateT .connected
      pure ⟨c', event, []⟩
  | .payload generation text =>
    if generation ≠ c.generation then pure c.idle else c.handlePayloadT text
  | .closed generation _ =>
    if generation ≠ c.generation then pure c.idle
    else do
      let (c', event) ← setStateT { c with connection := none } .disconnected
      let (c'', effects) := c'.scheduleReconnect
      pure ⟨c'', event, effects⟩
  | .reconnectDue =>
    let c' := { c with reconnect := none }
    if c.running then c'.connectT else pure c'.idle
  | .localEcho entry => c.mergeT entry .localEcho

end Client

/-- The notice of a reaction, if it has an event. -/
def Reaction.notices (r : Reaction) : List Notice := r.event.toList.map fun e => ⟨e, r.client.view⟩

namespace Client

variable (c : Client)

theorem setStateT_eq (state : StreamState) :
    c.setStateT state =
      ⟨c.setState state,
        (c.setState state).2.toList.map fun e => ⟨e, (c.setState state).1.view⟩⟩ := by
  unfold setStateT setState
  split <;> rfl

theorem connectT_eq : c.connectT = ⟨c.connect, c.connect.notices⟩ := by
  unfold connectT connect
  split
  · rfl
  · simp only [setStateT_eq, Told.bind_eq, Told.pure_eq, List.append_nil]
    rfl

theorem startT_eq : c.startT = ⟨{ c.start with event := none }, c.start.notices⟩ := by
  unfold startT start
  split
  · rfl
  · simp only [connectT_eq, Told.bind_eq, Told.pure_eq, List.append_nil]

theorem stopT_eq : c.stopT = ⟨{ c.stop with event := none }, c.stop.notices⟩ := by
  unfold stopT stop
  split
  · rfl
  · simp only [setStateT_eq, Told.bind_eq, Told.pure_eq, List.append_nil]
    rfl

theorem reloadT_eq (entries : List Entry) :
    c.reloadT entries = ⟨c.reload entries, (c.reload entries).notices⟩ := rfl

theorem clearT_eq : c.clearT = ⟨c.clear, c.clear.notices⟩ := rfl

theorem mergeT_eq (entry : Entry) (origin : Origin) :
    c.mergeT entry origin = ⟨c.merge entry origin, (c.merge entry origin).notices⟩ := by
  unfold mergeT merge
  rcases c.log.merge entry with ⟨log, _ | _⟩ <;> rfl

theorem handlePayloadT_eq (text : String) :
    c.handlePayloadT text = ⟨c.handlePayload text, (c.handlePayload text).notices⟩ := by
  unfold handlePayloadT handlePayload
  rcases StreamMessage.read text with fault | _ | entry
  · rfl
  · rfl
  · exact c.mergeT_eq entry .stream

theorem event_start : c.start.event = none ∨ c.start.event = some (.stateChanged .connecting) := by
  unfold start
  split
  · exact Or.inl rfl
  · exact event_connect _

theorem event_stop : c.stop.event = none ∨ c.stop.event = some (.stateChanged .disconnected) := by
  unfold stop
  split
  · exact Or.inl rfl
  · exact event_setState _ .disconnected

theorem view_scheduleReconnect : c.scheduleReconnect.1.view = c.view := by
  unfold scheduleReconnect
  split <;> rfl

theorem handleT_eq (m : Message) : c.handleT m = ⟨c.handle m, (c.handle m).notices⟩ := by
  cases m with
  | opened g =>
      simp only [handleT, handle]
      split
      · rfl
      · simp only [setStateT_eq, Told.bind_eq, Told.pure_eq, List.append_nil]
        rfl
  | payload g text =>
      simp only [handleT, handle]
      split
      · rfl
      · exact c.handlePayloadT_eq text
  | closed g reason =>
      simp only [handleT, handle]
      split
      · rfl
      · simp only [setStateT_eq, Told.bind_eq, Told.pure_eq, List.append_nil, Reaction.notices,
          view_scheduleReconnect]
  | reconnectDue =>
      simp only [handleT, handle]
      split
      · exact connectT_eq _
      · rfl
  | localEcho e => exact c.mergeT_eq e .localEcho

end Client

/-! ### The session -/

namespace System

/-- What may happen while the client waits for a message. -/
inductive Arrival where
  | echo (entry : Entry)
  | peerStep (generation : ℕ) (p : PeerStep)
  | fire (number : ℕ)
  | pass (ms : ℕ)
deriving Repr, Inhabited

def Arrival.toAction : Arrival → Action
  | .echo entry => .echo entry
  | .peerStep generation p => .peerStep generation p
  | .fire number => .fire number
  | .pass ms => .pass ms

/-- What can be done to a session: the actions, and the two calls of the client that handle several
messages.  Before each message that these take, more may come in. -/
inductive Call where
  | act (a : Action)
  /-- Messages are awaited and handled until one of them is an event, or until the call is given
  up. -/
  | pump (rounds : List (List Arrival))
  /-- Messages are handled until none is waiting. -/
  | drain (rounds : List (List Arrival))
deriving Repr, Inhabited

variable (s : System)

/-- Something happens while the client waits. -/
def await (arrivals : List Arrival) : System := s.run (arrivals.map Arrival.toAction)

/-- Takes a reaction of the client over and gives its event back. -/
def reactT (t : Told Reaction) : Told (System × Option SessionEvent) := do
  let r ← t
  pure (s.react r)

/-- The client handles the next message, if there is one. -/
def handleNextT : Told (System × Option SessionEvent) :=
  match s.queue with
  | [] => pure (s, none)
  | m :: rest => reactT { s with queue := rest } (s.client.handleT m)

/-- Handles a given number of messages; gives the events back. -/
def handleManyT (s : System) : ℕ → Told (System × List SessionEvent)
  | 0 => pure (s, [])
  | n + 1 => do
    let (s', event) ← s.handleNextT
    let (s'', events) ← s'.handleManyT n
    pure (s'', event.toList ++ events)

/-- Awaits messages, one in each round, until one of them is an event. -/
def pumpT (s : System) : List (List Arrival) → Told (System × Option SessionEvent)
  | [] => pure (s, none)
  | arrivals :: rounds => do
    match ← (s.await arrivals).handleNextT with
    | (s', some event) => pure (s', some event)
    | (s', none) => s'.pumpT rounds

/-- Handles messages until none is waiting; after the last round nothing comes in any more. -/
def drainT (s : System) : List (List Arrival) → Told (System × List SessionEvent)
  | [] => s.handleManyT s.queue.length
  | arrivals :: rounds =>
    let s := s.await arrivals
    if s.queue.isEmpty then pure (s, [])
    else do
      let (s', event) ← s.handleNextT
      let (s'', events) ← s'.drainT rounds
      pure (s'', event.toList ++ events)

/-- An action of a session with a bus, and what it gives back. -/
def performT : Action → Told (System × Option SessionEvent)
  | .start => s.reactT s.client.startT
  | .stop => s.reactT s.client.stopT
  | .reload entries => s.reactT (s.client.reloadT entries)
  | .clear => s.reactT s.client.clearT
  | .handleNext => s.handleNextT
  | .echo entry => pure (s.enqueue (.localEcho entry), none)
  | .peerStep generation p => pure (s.peerStep generation p, none)
  | .fire number => pure (s.fire number, none)
  | .pass ms => pure (s.pass ms, none)

/-- A call, and the events that it gives back. -/
def callT : Call → Told (System × List SessionEvent)
  | .act a => do
    let (s', event) ← s.performT a
    pure (s', event.toList)
  | .pump rounds => do
    let (s', event) ← s.pumpT rounds
    pure (s', event.toList)
  | .drain rounds => s.drainT rounds

/-- A session after a list of calls. -/
def runT (s : System) : List Call → Told System
  | [] => pure s
  | call :: calls => do
    let (s', _) ← s.callT call
    s'.runT calls

/-- The notice of an outcome, if it has an event. -/
def notices (outcome : System × Option SessionEvent) : List Notice :=
  outcome.2.toList.map fun e => ⟨e, outcome.1.client.view⟩

theorem map_event_notices (outcome : System × Option SessionEvent) :
    (notices outcome).map (·.event) = outcome.2.toList := by
  rw [notices, List.map_map]
  exact List.map_id _

def Action.givesBack : Action → Bool
  | .start => false
  | .stop => false
  | _ => true

def Call.givesBack : Call → Bool
  | .act a => a.givesBack
  | _ => true

theorem reactT_eq (s : System) (r : Reaction) :
    s.reactT ⟨r, r.notices⟩ = ⟨s.react r, notices (s.react r)⟩ := by
  simp only [reactT, Told.bind_eq, Told.pure_eq, List.append_nil, notices, client_react]
  rfl

/-- What starting and stopping give back is dropped. -/
theorem reactT_silent_eq (s : System) (r : Reaction) :
    s.reactT ⟨{ r with event := none }, r.notices⟩ =
      ⟨((s.react r).1, none), notices (s.react r)⟩ := by
  simp only [reactT, Told.bind_eq, Told.pure_eq, List.append_nil, notices, client_react]
  rfl

theorem handleNextT_eq : s.handleNextT = ⟨s.handleNext, notices s.handleNext⟩ := by
  unfold handleNextT handleNext
  cases s.queue with
  | nil => rfl
  | cons m rest =>
      dsimp only
      rw [Client.handleT_eq, reactT_eq]

theorem performT_eq (a : Action) : s.performT a =
    ⟨((s.perform a).1, if a.givesBack then (s.perform a).2 else none), notices (s.perform a)⟩ := by
  cases a with
  | start => rw [performT, Client.startT_eq, reactT_silent_eq]; rfl
  | stop => rw [performT, Client.stopT_eq, reactT_silent_eq]; rfl
  | reload entries => rw [performT, Client.reloadT_eq, reactT_eq]; rfl
  | clear => rw [performT, Client.clearT_eq, reactT_eq]; rfl
  | handleNext => exact s.handleNextT_eq
  | _ => rfl

theorem handleManyT_val (n : ℕ) (s : System) : (s.handleManyT n).val = s.handleMany n := by
  induction n generalizing s with
  | zero => rfl
  | succ n ih =>
      simp only [handleManyT, handleMany, Told.bind_eq, Told.pure_eq, handleNextT_eq, ih]

theorem pumpT_cons (arrivals : List Arrival) (rounds : List (List Arrival)) :
    s.pumpT (arrivals :: rounds) =
      match (s.await arrivals).handleNext with
      | (s', some event) => ⟨(s', some event), [⟨event, s'.client.view⟩]⟩
      | (s', none) => s'.pumpT rounds := by
  rw [pumpT, handleNextT_eq, Told.bind_eq]
  rcases (s.await arrivals).handleNext with ⟨s', _ | event⟩ <;> rfl

theorem pumpT_replicate (n : ℕ) (s : System) :
    (s.pumpT (List.replicate n [])).val = s.pumpMany n := by
  induction n generalizing s with
  | zero => rfl
  | succ n ih =>
      rw [List.replicate_succ, pumpT_cons, pumpMany]
      rw [show s.await [] = s from rfl]
      rcases s.handleNext with ⟨s', _ | event⟩
      · exact ih s'
      · rfl

theorem drainT_nil : (s.drainT []).val = s.drain := handleManyT_val s.queue.length s

theorem callT_act_eq (a : Action) : s.callT (.act a) =
    ⟨((s.perform a).1, if a.givesBack then (s.perform a).2.toList else []),
      notices (s.perform a)⟩ := by
  rw [callT, performT_eq, Told.bind_eq]
  cases a.givesBack <;> exact congrArg (Told.mk _) (List.append_nil _)

theorem callT_pump_eq (rounds : List (List Arrival)) : s.callT (.pump rounds) =
    ⟨((s.pumpT rounds).val.1, (s.pumpT rounds).val.2.toList), (s.pumpT rounds).notices⟩ := by
  rw [callT, Told.bind_eq]
  exact congrArg (Told.mk _) (List.append_nil _)

theorem runT_act_val (as : List Action) (s : System) :
    (s.runT (as.map Call.act)).val = s.run as := by
  induction as generalizing s with
  | nil => rfl
  | cons a as ih =>
      rw [List.map_cons, runT, Told.bind_eq, callT_act_eq]
      exact ih (s.perform a).1

/-- One more call publishes after all that was published before. -/
theorem runT_concat (calls : List Call) (call : Call) (s : System) :
    s.runT (calls ++ [call]) =
      ⟨((s.runT calls).val.callT call).val.1,
        (s.runT calls).notices ++ ((s.runT calls).val.callT call).notices⟩ := by
  induction calls generalizing s with
  | nil => exact congrArg (Told.mk _) (List.append_nil _)
  | cons first calls ih =>
      simp only [List.cons_append, runT, Told.bind_eq, ih, List.append_assoc]

/-! ### What is given back is what is published -/

theorem handleManyT_events (n : ℕ) (s : System) :
    (s.handleManyT n).notices.map (·.event) = (s.handleManyT n).val.2 := by
  induction n generalizing s with
  | zero => rfl
  | succ n ih =>
      simp only [handleManyT, Told.bind_eq, Told.pure_eq, handleNextT_eq, List.map_append,
        List.append_nil, ih, map_event_notices]

theorem pumpT_events (rounds : List (List Arrival)) (s : System) :
    (s.pumpT rounds).notices.map (·.event) = (s.pumpT rounds).val.2.toList := by
  induction rounds generalizing s with
  | nil => rfl
  | cons arrivals rounds ih =>
      rw [pumpT_cons]
      rcases (s.await arrivals).handleNext with ⟨s', _ | event⟩
      · exact ih s'
      · rfl

theorem drainT_events (rounds : List (List Arrival)) (s : System) :
    (s.drainT rounds).notices.map (·.event) = (s.drainT rounds).val.2 := by
  induction rounds generalizing s with
  | nil => exact handleManyT_events _ s
  | cons arrivals rounds ih =>
      unfold drainT
      dsimp only
      split
      · rfl
      · simp only [Told.bind_eq, Told.pure_eq, handleNextT_eq, List.map_append, List.append_nil, ih,
          map_event_notices]

theorem callT_events {call : Call} (h : call.givesBack = true) :
    (s.callT call).notices.map (·.event) = (s.callT call).val.2 := by
  cases call with
  | act a =>
      rw [callT_act_eq, if_pos (show a.givesBack = true from h)]
      exact map_event_notices (s.perform a)
  | pump rounds =>
      rw [callT_pump_eq]
      exact pumpT_events rounds s
  | drain rounds => exact drainT_events rounds s

theorem stateChanged_of_mem_notices {r : Reaction} {state : StreamState} {n : Notice}
    (h : r.event = none ∨ r.event = some (.stateChanged state)) (hn : n ∈ notices (s.react r)) :
    ∃ state, n.event = .stateChanged state := by
  obtain ⟨e, he, rfl⟩ := List.mem_map.mp hn
  have hevent : r.event = some e := Option.mem_toList.mp he
  rcases h with h | h <;> rw [h] at hevent
  · cases hevent
  · exact ⟨state, (Option.some.inj hevent).symm⟩

/-- Starting and stopping give nothing back, and publish nothing but a change of the state. -/
theorem callT_silent {call : Call} (h : call.givesBack = false) :
    (s.callT call).val.2 = [] ∧
      ∀ n ∈ (s.callT call).notices, ∃ state, n.event = .stateChanged state := by
  match call, h with
  | .act .start, _ =>
      rw [callT_act_eq]
      exact ⟨rfl, fun n hn => s.stateChanged_of_mem_notices s.client.event_start hn⟩
  | .act .stop, _ =>
      rw [callT_act_eq]
      exact ⟨rfl, fun n hn => s.stateChanged_of_mem_notices s.client.event_stop hn⟩

end System

end PenPlotter
