import PenPlotter.Proofs.Session.Actions

/-! # The life of a session

A session that runs is `Online`, with a connection that is open or about to open, or `Retrying`,
with one timer that leads to the next connection; a session that does not run is `Idle`.
`phase_of_run` says that this holds after every run.

The invariant behind it is `System.Sound`.  A connection that is held is known by the current
generation, and messages of that generation are in the queue only as long as it is held.  The
message that ends the connection is the last one of its generation, and no reconnect message
comes after it (`Ending`): a reconnect message of a timer that was aborted too late stands before
the messages of all later connections, so that it is handled while it can do nothing. -/

namespace PenPlotter
namespace System

/-! ### The phases -/

/-- A connection is open or about to open: it is held, no reconnect is pending, and its task is
alive or has sent the end of the connection, which is still to be handled. -/
def Online (s : System) : Prop :=
  (s.client.state = .connecting ∨ s.client.state = .connected) ∧
  s.client.connection.isSome ∧ s.client.reconnect = none ∧ s.timers = [] ∧
  ((∃ t ∈ s.tasks, t.generation = s.client.generation) ∨
    ∃ reason, .closed s.client.generation reason ∈ s.queue)

/-- There is no connection and no task; exactly one reconnect is pending, whose timer is armed or
has sent its one message, which is still to be handled. -/
def Retrying (s : System) : Prop :=
  s.client.state = .disconnected ∧ s.client.connection = none ∧ s.tasks = [] ∧
  ∃ number, s.client.reconnect = some number ∧
    ((∃ deadline, s.timers = [⟨number, deadline⟩] ∧ .reconnectDue ∉ s.queue) ∨
      (s.timers = [] ∧ s.queue.count .reconnectDue = 1))

/-- There is no connection, no task, no reconnect and no timer. -/
def Idle (s : System) : Prop :=
  s.client.state = .disconnected ∧ s.client.connection = none ∧ s.client.reconnect = none ∧
  s.tasks = [] ∧ s.timers = []

/-! ### The invariant -/

/-- No message of the current connection is waiting. -/
def Fresh (s : System) : Prop := ∀ m ∈ s.queue, m.generation? ≠ some s.client.generation

/-- The waiting messages are of the current connection or of earlier ones. -/
def Bounded (s : System) : Prop :=
  ∀ m ∈ s.queue, ∀ g, m.generation? = some g → g ≤ s.client.generation

/-- The connection of a generation ends in the queue; nothing of it and no reconnect message
comes after that. -/
def Ending (g : Nat) (queue : List Message) : Prop :=
  ∃ before reason after, queue = before ++ .closed g reason :: after ∧
    (∀ m ∈ before, ¬ m.Ends g) ∧ ∀ m ∈ after, m ≠ .reconnectDue ∧ m.generation? ≠ some g

/-- The task of the current connection is the only one and has not ended, or it has sent its
end. -/
def Sourced (s : System) : Prop :=
  ((∃ reading, s.tasks = [⟨s.client.generation, reading⟩]) ∧
    ∀ m ∈ s.queue, ¬ m.Ends s.client.generation) ∨
  (s.tasks = [] ∧ Ending s.client.generation s.queue)

/-- The client holds the connection of the current generation. -/
structure Holding (s : System) : Prop where
  running : s.client.running = true
  state : s.client.state = .connecting ∨ s.client.state = .connected
  connection : s.client.connection = some s.client.generation
  reconnect : s.client.reconnect = none
  timers : s.timers = []
  sourced : s.Sourced

/-- The client waits for a timer. -/
structure Waiting (s : System) : Prop where
  running : s.client.running = true
  retrying : s.Retrying
  fresh : s.Fresh

/-- The session was not started or was stopped. -/
structure Stopped (s : System) : Prop where
  running : s.client.running = false
  idle : s.Idle
  fresh : s.Fresh

/-- What holds in every state of a session. -/
structure Sound (s : System) : Prop where
  bounded : s.Bounded
  phase : s.Holding ∨ s.Waiting ∨ s.Stopped

variable {s : System}

/-! ### What the invariant is about

The log of the client and the clock do not matter, and neither do messages that end no current
connection and are no reconnect messages. -/

section frame

/-- The invariant is about the control state of the client alone. -/
theorem Sound.relog (h : s.Sound) (log : SessionLog) :
    Sound { s with client := { s.client with log } } where
  bounded := h.bounded
  phase := by
    rcases h.phase with hh | hw | hs
    · exact Or.inl ⟨hh.running, hh.state, hh.connection, hh.reconnect, hh.timers, hh.sourced⟩
    · exact Or.inr (Or.inl ⟨hw.running, hw.retrying, hw.fresh⟩)
    · exact Or.inr (Or.inr ⟨hs.running, hs.idle, hs.fresh⟩)

theorem Sound.pass (h : s.Sound) (ms : Nat) : Sound (s.pass ms) where
  bounded := h.bounded
  phase := by
    rcases h.phase with hh | hw | hs
    · exact Or.inl ⟨hh.running, hh.state, hh.connection, hh.reconnect, hh.timers, hh.sourced⟩
    · exact Or.inr (Or.inl ⟨hw.running, hw.retrying, hw.fresh⟩)
    · exact Or.inr (Or.inr ⟨hs.running, hs.idle, hs.fresh⟩)

theorem Bounded.tail {m : Message} {rest : List Message} (h : s.Bounded)
    (hq : s.queue = m :: rest) : Bounded { s with queue := rest } := by
  intro x hx
  refine h x ?_
  rw [hq]
  exact List.mem_cons_of_mem _ hx

theorem Bounded.append (h : s.Bounded) {m : Message}
    (hm : ∀ g, m.generation? = some g → g ≤ s.client.generation) :
    Bounded { s with queue := s.queue ++ [m] } := by
  intro x hx
  rcases List.mem_append.mp hx with hx | hx
  · exact h x hx
  · rw [List.mem_singleton.mp hx]
    exact hm

theorem Fresh.append (h : s.Fresh) {m : Message}
    (hm : m.generation? ≠ some s.client.generation) :
    Fresh { s with queue := s.queue ++ [m] } := by
  intro x hx
  rcases List.mem_append.mp hx with hx | hx
  · exact h x hx
  · rw [List.mem_singleton.mp hx]
    exact hm

theorem Ending.tail {g : Nat} {m : Message} {rest : List Message} (h : Ending g (m :: rest))
    (hm : ¬ m.Ends g) : Ending g rest := by
  obtain ⟨before, reason, after, hq, hbefore, hafter⟩ := h
  cases before with
  | nil =>
      obtain ⟨rfl, _⟩ := List.cons.inj hq
      exact absurd ⟨reason, rfl⟩ hm
  | cons x before =>
      obtain ⟨rfl, rfl⟩ := List.cons.inj hq
      exact ⟨before, reason, after, rfl, fun y hy => hbefore y (List.mem_cons_of_mem _ hy), hafter⟩

theorem Ending.append {g : Nat} {queue : List Message} {m : Message} (h : Ending g queue)
    (hr : m ≠ .reconnectDue) (hg : m.generation? ≠ some g) : Ending g (queue ++ [m]) := by
  obtain ⟨before, reason, after, rfl, hbefore, hafter⟩ := h
  refine ⟨before, reason, after ++ [m], by simp, hbefore, ?_⟩
  intro x hx
  rcases List.mem_append.mp hx with hx | hx
  · exact hafter x hx
  · rw [List.mem_singleton.mp hx]
    exact ⟨hr, hg⟩

/-- The end of the current connection, once it is at the head of the queue, is followed by
nothing of that connection and by no reconnect message. -/
theorem Ending.of_head {g : Nat} {m : Message} {rest : List Message} (h : Ending g (m :: rest))
    (hm : m.Ends g) : ∀ x ∈ rest, x ≠ .reconnectDue ∧ x.generation? ≠ some g := by
  obtain ⟨before, reason, after, hq, hbefore, hafter⟩ := h
  cases before with
  | nil =>
      obtain ⟨_, rfl⟩ := List.cons.inj hq
      exact hafter
  | cons x before =>
      obtain ⟨rfl, _⟩ := List.cons.inj hq
      exact absurd hm (hbefore m List.mem_cons_self)

/-- A held connection stays held when a message is dropped that does not end it. -/
theorem Holding.tail {m : Message} {rest : List Message} (h : s.Holding)
    (hq : s.queue = m :: rest) (hm : ¬ m.Ends s.client.generation) :
    Holding { s with queue := rest } where
  running := h.running
  state := h.state
  connection := h.connection
  reconnect := h.reconnect
  timers := h.timers
  sourced := by
    rcases h.sourced with ⟨ht, hne⟩ | ⟨ht, he⟩
    · refine Or.inl ⟨ht, fun x hx => hne x ?_⟩
      rw [hq]
      exact List.mem_cons_of_mem _ hx
    · rw [hq] at he
      exact Or.inr ⟨ht, he.tail hm⟩

theorem Waiting.tail {m : Message} {rest : List Message} (h : s.Waiting)
    (hq : s.queue = m :: rest) (hm : m ≠ .reconnectDue) : Waiting { s with queue := rest } where
  running := h.running
  retrying := by
    obtain ⟨hs, hc, ht, n, hn, htimer⟩ := h.retrying
    refine ⟨hs, hc, ht, n, hn, ?_⟩
    rw [hq] at htimer
    rcases htimer with ⟨d, ha, hr⟩ | ⟨ha, hr⟩
    · exact Or.inl ⟨d, ha, fun hx => hr (List.mem_cons_of_mem _ hx)⟩
    · rw [List.count_cons_of_ne hm] at hr
      exact Or.inr ⟨ha, hr⟩
  fresh := by
    intro x hx
    refine h.fresh x ?_
    rw [hq]
    exact List.mem_cons_of_mem _ hx

theorem Stopped.tail {m : Message} {rest : List Message} (h : s.Stopped)
    (hq : s.queue = m :: rest) : Stopped { s with queue := rest } where
  running := h.running
  idle := h.idle
  fresh := by
    intro x hx
    refine h.fresh x ?_
    rw [hq]
    exact List.mem_cons_of_mem _ hx

/-- Any message but a reconnect message or the end of the current connection may be dropped. -/
theorem Sound.tail {m : Message} {rest : List Message} (h : s.Sound) (hq : s.queue = m :: rest)
    (hend : ¬ m.Ends s.client.generation) (hdue : m ≠ .reconnectDue) :
    Sound { s with queue := rest } where
  bounded := h.bounded.tail hq
  phase := h.phase.imp (·.tail hq hend) (Or.imp (·.tail hq hdue) (·.tail hq))

theorem Holding.enqueue_echo (h : s.Holding) (e : Entry) :
    Holding (s.enqueue (.localEcho e)) where
  running := h.running
  state := h.state
  connection := h.connection
  reconnect := h.reconnect
  timers := h.timers
  sourced := by
    rcases h.sourced with ⟨ht, hne⟩ | ⟨ht, he⟩
    · refine Or.inl ⟨ht, fun m hm hend => ?_⟩
      rcases List.mem_append.mp hm with hm | hm
      · exact hne m hm hend
      · rw [List.mem_singleton.mp hm] at hend
        cases hend.generation
    · exact Or.inr ⟨ht, he.append (by simp) (by simp [Message.generation?])⟩

theorem Waiting.enqueue_echo (h : s.Waiting) (e : Entry) :
    Waiting (s.enqueue (.localEcho e)) where
  running := h.running
  retrying := by
    obtain ⟨hs, hc, ht, n, hn, htimer⟩ := h.retrying
    refine ⟨hs, hc, ht, n, hn, ?_⟩
    rcases htimer with ⟨d, ha, hr⟩ | ⟨ha, hr⟩
    · refine Or.inl ⟨d, ha, fun hx => ?_⟩
      rcases List.mem_append.mp hx with hx | hx
      · exact hr hx
      · exact Message.noConfusion (List.mem_singleton.mp hx)
    · refine Or.inr ⟨ha, ?_⟩
      show List.count _ (s.queue ++ [Message.localEcho e]) = 1
      rw [List.count_append, hr]
      rfl
  fresh := h.fresh.append (by simp [Message.generation?])

theorem Sound.enqueue_echo (h : s.Sound) (e : Entry) : Sound (s.enqueue (.localEcho e)) where
  bounded := h.bounded.append fun g hg => by cases hg
  phase := by
    rcases h.phase with hh | hw | hs
    · exact Or.inl (hh.enqueue_echo e)
    · exact Or.inr (Or.inl (hw.enqueue_echo e))
    · exact Or.inr (Or.inr ⟨hs.running, hs.idle, hs.fresh.append (by simp [Message.generation?])⟩)

end frame

/-! ### Connecting and stopping -/

section connections

theorem Holding.not_disconnected (h : s.Holding) : s.client.state ≠ .disconnected := by
  rcases h.state with hs | hs <;> rw [hs] <;> simp

theorem connect_of_disconnected {c : Client} (hs : c.state = .disconnected)
    (hc : c.connection = none) :
    c.connect =
      ⟨{ c with generation := c.generation + 1, connection := some (c.generation + 1),
                state := .connecting },
        some (.stateChanged .connecting), [.openConnection (c.generation + 1)]⟩ := by
  unfold Client.connect Client.setState
  simp [hs, hc]

theorem connect_of_not_disconnected {c : Client} (hs : c.state ≠ .disconnected) :
    c.connect = c.idle := by
  unfold Client.connect
  rw [if_pos (Or.inl hs)]

/-- A running session without connection, task and timer opens a connection: the new generation is
larger than those of all waiting messages. -/
theorem Sound.connect (hb : s.Bounded) (hr : s.client.running = true) (hi : s.Idle) :
    Sound (s.react s.client.connect).1 := by
  obtain ⟨hs, hc, hrec, htasks, htimers⟩ := hi
  rw [connect_of_disconnected hs hc, react_of_effect rfl]
  refine ⟨?_, Or.inl ⟨hr, Or.inl rfl, rfl, hrec, htimers, Or.inl ⟨⟨false, ?_⟩, ?_⟩⟩⟩
  · intro m hm g hg
    exact Nat.le_succ_of_le (hb m hm g hg)
  · show s.tasks ++ [_] = [_]
    rw [htasks]
    rfl
  · intro m hm hend
    have hle : s.client.generation + 1 ≤ s.client.generation := hb m hm _ hend.generation
    omega

theorem Sound.start (h : s.Sound) : Sound (s.react s.client.start).1 := by
  unfold Client.start
  rcases h.phase with hh | hw | hs
  · rw [if_pos hh.running]
    exact h
  · rw [if_pos hw.running]
    exact h
  · rw [if_neg (by rw [hs.running]; simp)]
    exact Sound.connect (s := { s with client := { s.client with running := true } }) h.bounded rfl
      hs.idle

/-- The client after it was stopped. -/
def halted (c : Client) : Client :=
  { c with running := false, connection := none, reconnect := none,
           generation := c.generation + 1, state := .disconnected }

theorem stop_of_running {c : Client} (h : c.running = true) :
    c.stop.client = halted c ∧
    c.stop.effects = (c.connection.map Effect.abortConnection).toList ++
      (c.reconnect.map Effect.abortTimer).toList := by
  unfold Client.stop Client.setState halted
  rw [if_neg (by simp [h])]
  by_cases hs : c.state = .disconnected <;> simp [hs]

theorem stop_of_idle (h : s.client.running = false) (hi : s.Idle) :
    s.client.stop = s.client.idle := by
  obtain ⟨_, hc, hrec, _⟩ := hi
  unfold Client.stop
  rw [if_pos (by simp [h, hc, hrec])]

theorem Holding.filter_tasks (h : s.Holding) :
    s.tasks.filter (·.generation != s.client.generation) = [] := by
  rcases h.sourced with ⟨⟨reading, ht⟩, _⟩ | ⟨ht, _⟩ <;> simp [ht]

theorem Waiting.filter_timers (h : s.Waiting) {n : Nat} (hn : s.client.reconnect = some n) :
    s.timers.filter (·.number != n) = [] := by
  obtain ⟨_, _, _, n', hn', htimer⟩ := h.retrying
  obtain rfl : n = n' := Option.some.inj (hn.symm.trans hn')
  rcases htimer with ⟨d, ha, _⟩ | ⟨ha, _⟩ <;> simp [ha]

/-- Stopping a session that runs aborts its only task or its only timer. -/
theorem react_stop (h : s.Holding ∨ s.Waiting) :
    (s.react s.client.stop).1 = { s with client := halted s.client, tasks := [], timers := [] } := by
  rcases h with hh | hw
  · obtain ⟨hclient, heffects⟩ := stop_of_running hh.running
    rw [hh.connection, hh.reconnect] at heffects
    rw [react_of_effect heffects, hclient]
    simp only [carryOut]
    rw [hh.filter_tasks, hh.timers]
  · obtain ⟨hclient, heffects⟩ := stop_of_running hw.running
    obtain ⟨_, hc, ht, n, hn, _⟩ := hw.retrying
    rw [hc, hn] at heffects
    rw [react_of_effect heffects, hclient]
    simp only [carryOut]
    rw [hw.filter_timers hn, ht]

theorem Sound.halt (hb : s.Bounded) :
    Sound { s with client := halted s.client, tasks := [], timers := [] } where
  bounded m hm g hg := Nat.le_succ_of_le (hb m hm g hg)
  phase := by
    refine Or.inr (Or.inr ⟨rfl, ⟨rfl, rfl, rfl, rfl, rfl⟩, ?_⟩)
    intro m hm heq
    have hle : s.client.generation + 1 ≤ s.client.generation := hb m hm _ heq
    omega

theorem Sound.stop (h : s.Sound) : Sound (s.react s.client.stop).1 := by
  rcases h.phase with hh | hw | hs
  · rw [react_stop (Or.inl hh)]
    exact Sound.halt h.bounded
  · rw [react_stop (Or.inr hw)]
    exact Sound.halt h.bounded
  · rw [stop_of_idle hs.running hs.idle]
    exact h

end connections

/-! ### Handling messages -/

section handling

/-- A message that comes from an old connection does nothing. -/
theorem handle_of_stale {c : Client} {m : Message} {g : Nat} (hm : m.generation? = some g)
    (hg : g ≠ c.generation) : c.handle m = c.idle := by
  cases m with
  | opened g' => obtain rfl := Option.some.inj hm; exact if_pos hg
  | payload g' text => obtain rfl := Option.some.inj hm; exact if_pos hg
  | closed g' reason => obtain rfl := Option.some.inj hm; exact if_pos hg
  | reconnectDue => cases hm
  | localEcho e => cases hm

theorem react_merge (s : System) (e : Entry) (origin : Origin) :
    ∃ log, (s.react (s.client.merge e origin)).1 = { s with client := { s.client with log } } := by
  unfold Client.merge
  rcases s.client.log.merge e with ⟨log, _ | _⟩
  · exact ⟨s.client.log, rfl⟩
  · exact ⟨log, rfl⟩

theorem react_handlePayload (s : System) (text : String) :
    ∃ log, (s.react (s.client.handlePayload text)).1 =
      { s with client := { s.client with log } } := by
  unfold Client.handlePayload
  split
  · exact react_merge s _ _
  · exact ⟨s.client.log, rfl⟩

theorem Sound.opened (hb : s.Bounded) (h : s.Holding) :
    Sound (s.react (s.client.handle (.opened s.client.generation))).1 := by
  have hclient : (s.react (s.client.handle (.opened s.client.generation))).1 =
      { s with client := { s.client with state := .connected } } := by
    simp only [Client.handle, ne_eq, not_true_eq_false, if_false, Client.setState]
    split_ifs with hs
    · rw [react_of_no_effects rfl, ← hs]
    · rw [react_of_no_effects rfl]
  rw [hclient]
  exact ⟨hb, Or.inl ⟨h.running, Or.inr rfl, h.connection, h.reconnect, h.timers, h.sourced⟩⟩

/-- The client lets a connection that has ended go, and arms a timer. -/
theorem Holding.handle_closed (h : s.Holding) (reason : String) :
    s.client.handle (.closed s.client.generation reason) =
      ⟨{ s.client with connection := none, state := .disconnected,
                       reconnect := some s.client.timersArmed,
                       timersArmed := s.client.timersArmed + 1 },
        some (.stateChanged .disconnected), [.armTimer s.client.timersArmed]⟩ := by
  simp only [Client.handle, ne_eq, not_true_eq_false, if_false, Client.setState,
    Client.scheduleReconnect]
  rw [if_neg h.not_disconnected]
  simp [h.running, h.reconnect]

theorem Sound.closed {reason : String} {rest : List Message} (hb : s.Bounded) (h : s.Holding)
    (hq : s.queue = .closed s.client.generation reason :: rest) :
    Sound ({ s with queue := rest }.react
      (s.client.handle (.closed s.client.generation reason))).1 := by
  have htasks : s.tasks = [] ∧ Ending s.client.generation s.queue := by
    rcases h.sourced with ⟨_, hne⟩ | he
    · refine absurd ⟨reason, rfl⟩ (hne _ ?_)
      rw [hq]
      exact List.mem_cons_self
    · exact he
  have hrest := (hq ▸ htasks.2 : Ending _ (_ :: rest)).of_head ⟨reason, rfl⟩
  rw [h.handle_closed, react_of_effect rfl]
  refine ⟨hb.tail hq, Or.inr (Or.inl ⟨h.running, ⟨rfl, rfl, htasks.1, s.client.timersArmed, rfl,
    Or.inl ⟨s.now + s.client.reconnectDelay, ?_, ?_⟩⟩, ?_⟩)⟩
  · show s.timers ++ [_] = _
    rw [h.timers]
    rfl
  · exact fun hm => (hrest _ hm).1 rfl
  · exact fun m hm => (hrest m hm).2

theorem handle_reconnectDue_of_running {c : Client} (h : c.running = true) :
    c.handle .reconnectDue = Client.connect { c with reconnect := none } := if_pos h

theorem handle_reconnectDue_of_stopped {c : Client} (h : c.running = false) :
    c.handle .reconnectDue = Client.idle { c with reconnect := none } :=
  if_neg (by rw [h]; simp)

theorem forget_reconnect {c : Client} (h : c.reconnect = none) :
    { c with reconnect := none } = c := by rw [← h]

/-- A reconnect message opens a connection if the client waits for one, and does nothing
otherwise. -/
theorem Sound.reconnectDue {rest : List Message} (h : s.Sound)
    (hq : s.queue = .reconnectDue :: rest) :
    Sound ({ s with queue := rest }.react (s.client.handle .reconnectDue)).1 := by
  rcases h.phase with hh | hw | hs
  · rw [handle_reconnectDue_of_running hh.running, forget_reconnect hh.reconnect,
      connect_of_not_disconnected hh.not_disconnected]
    exact ⟨h.bounded.tail hq, Or.inl (hh.tail hq (by simp [Message.Ends]))⟩
  · obtain ⟨hstate, hconn, htasks, n, hn, htimer⟩ := hw.retrying
    have htimers : s.timers = [] := by
      rcases htimer with ⟨_, _, hr⟩ | ⟨ha, _⟩
      · refine absurd ?_ hr
        rw [hq]
        exact List.mem_cons_self
      · exact ha
    rw [handle_reconnectDue_of_running hw.running]
    exact Sound.connect
      (s := { s with queue := rest, client := { s.client with reconnect := none } })
      (h.bounded.tail hq) hw.running ⟨hstate, hconn, rfl, htasks, htimers⟩
  · rw [handle_reconnectDue_of_stopped hs.running, forget_reconnect hs.idle.2.2.1]
    exact ⟨h.bounded.tail hq, Or.inr (Or.inr (hs.tail hq))⟩

/-- While a message of the current connection is waiting, the connection is held. -/
theorem Sound.holding {m : Message} {rest : List Message} (h : s.Sound)
    (hq : s.queue = m :: rest) (hm : m.generation? = some s.client.generation) : s.Holding := by
  have hmem : m ∈ s.queue := by
    rw [hq]
    exact List.mem_cons_self
  rcases h.phase with hh | hw | hs
  · exact hh
  · exact absurd hm (hw.fresh m hmem)
  · exact absurd hm (hs.fresh m hmem)

/-- Handling any message keeps the invariant. -/
theorem Sound.handleNext (h : s.Sound) : Sound s.handleNext.1 := by
  unfold System.handleNext
  split
  · exact h
  rename_i m rest hq
  -- Stale messages are dropped; of the current ones each kind has its own lemma.
  by_cases hstale : ∃ g, m.generation? = some g ∧ g ≠ s.client.generation
  · obtain ⟨g, hm, hg⟩ := hstale
    rw [handle_of_stale hm hg]
    refine h.tail hq ?_ ?_
    · intro hend
      rw [hend.generation] at hm
      exact hg (Option.some.inj hm).symm
    · rintro rfl
      cases hm
  have hcurrent : ∀ g, m.generation? = some g → g = s.client.generation :=
    fun g hm => not_not.mp fun hg => hstale ⟨g, hm, hg⟩
  cases m with
  | opened g =>
      obtain rfl := hcurrent g rfl
      have hh := (h.holding hq rfl).tail hq (by simp [Message.Ends])
      exact Sound.opened (h.bounded.tail hq) hh
  | payload g text =>
      obtain rfl := hcurrent g rfl
      obtain ⟨log, hlog⟩ := react_handlePayload { s with queue := rest } text
      have hpay : s.client.handle (.payload s.client.generation text) =
          s.client.handlePayload text := if_neg (not_not.mpr rfl)
      rw [hpay, hlog]
      exact (h.tail hq (by simp [Message.Ends]) (by simp)).relog log
  | closed g reason =>
      obtain rfl := hcurrent g rfl
      exact Sound.closed h.bounded (h.holding hq rfl) hq
  | reconnectDue => exact h.reconnectDue hq
  | localEcho e =>
      obtain ⟨log, hlog⟩ := react_merge { s with queue := rest } e .localEcho
      show Sound ({ s with queue := rest }.react (s.client.merge e .localEcho)).1
      rw [hlog]
      exact (h.tail hq (by simp [Message.Ends]) (by simp)).relog log

end handling

/-! ### Tasks and timers -/

section sources

/-- A step of a connection task keeps the invariant; its last message is the end. -/
theorem Sound.peerStep (h : s.Sound) (g : Nat) (p : PeerStep) : Sound (s.peerStep g p) := by
  have hpush : ∀ m, m.generation? = some s.client.generation →
      Bounded { s with queue := s.queue ++ [m] } := by
    intro m hm
    refine h.bounded.append fun g hg => ?_
    rw [hm] at hg
    exact Nat.le_of_eq (Option.some.inj hg).symm
  rcases h.phase with hh | hw | hs
  · rcases hh.sourced with ⟨⟨reading, ht⟩, hne⟩ | ⟨ht, _⟩
    · rcases peerStep_of_single ht g p with hsame | ⟨m, hend, hstep⟩ | ⟨m, r, hm, hnend, hstep⟩
      · rw [hsame]
        exact h
      · rw [hstep]
        refine ⟨hpush m hend.generation, Or.inl ⟨hh.running, hh.state, hh.connection, hh.reconnect,
          hh.timers, Or.inr ⟨rfl, ?_⟩⟩⟩
        obtain ⟨reason, rfl⟩ := hend
        exact ⟨s.queue, reason, [], rfl, hne, by simp⟩
      · rw [hstep]
        refine ⟨hpush m hm, Or.inl ⟨hh.running, hh.state, hh.connection, hh.reconnect,
          hh.timers, Or.inl ⟨⟨r, rfl⟩, ?_⟩⟩⟩
        intro x hx
        rcases List.mem_append.mp hx with hx | hx
        · exact hne x hx
        · rw [List.mem_singleton.mp hx]
          exact hnend
    · rw [peerStep_of_no_tasks ht]
      exact h
  · rw [peerStep_of_no_tasks hw.retrying.2.2.1]
    exact h
  · rw [peerStep_of_no_tasks hs.idle.2.2.2.1]
    exact h

theorem fire_of_no_timers (ht : s.timers = []) (n : Nat) : s.fire n = s := by
  unfold System.fire
  rw [ht]
  rfl

/-- A timer whose time has come runs out and leaves one message. -/
theorem fire_cases_of_single {n d : Nat} (ht : s.timers = [⟨n, d⟩]) (k : Nat) :
    s.fire k = s ∨
    (k = n ∧ d ≤ s.now ∧ s.fire k = { s with timers := [], queue := s.queue ++ [.reconnectDue] }) := by
  unfold System.fire
  rw [ht]
  by_cases hk : n = k
  · subst hk
    have hfind : [Timer.mk n d].find? (·.number == n) = some ⟨n, d⟩ := by simp
    rw [hfind]
    dsimp only
    split_ifs with hd
    · exact Or.inr ⟨rfl, hd, by simp [enqueue]⟩
    · exact Or.inl rfl
  · left
    have hb : (n == k) = false := by simpa using hk
    simp only [List.find?_cons, hb, List.find?_nil]

theorem fire_of_single {n d : Nat} (ht : s.timers = [⟨n, d⟩]) (k : Nat) :
    s.fire k = s ∨ s.fire k = { s with timers := [], queue := s.queue ++ [.reconnectDue] } :=
  (fire_cases_of_single ht k).imp_right fun h => h.2.2

theorem Sound.fire (h : s.Sound) (k : Nat) : Sound (s.fire k) := by
  rcases h.phase with hh | hw | hs
  · rw [fire_of_no_timers hh.timers]
    exact h
  · obtain ⟨hstate, hconn, htasks, n, hn, htimer⟩ := hw.retrying
    rcases htimer with ⟨d, ha, hr⟩ | ⟨ha, _⟩
    · rcases fire_of_single ha k with hsame | hfire
      · rw [hsame]
        exact h
      · rw [hfire]
        refine ⟨h.bounded.append (fun g hg => by cases hg), Or.inr (Or.inl ⟨hw.running,
          ⟨hstate, hconn, htasks, n, hn, Or.inr ⟨rfl, ?_⟩⟩,
          hw.fresh.append (by simp [Message.generation?])⟩)⟩
        show List.count _ (s.queue ++ [_]) = 1
        rw [List.count_append, List.count_eq_zero.mpr hr]
        rfl
    · rw [fire_of_no_timers ha]
      exact h
  · rw [fire_of_no_timers hs.idle.2.2.2.2]
    exact h

end sources

/-! ### All runs -/

section runs

theorem Sound.perform (h : s.Sound) (a : Action) : Sound (s.perform a).1 := by
  cases a with
  | start => exact h.start
  | stop => exact h.stop
  | reload entries => exact h.relog _
  | clear => exact h.relog _
  | echo e => exact h.enqueue_echo e
  | handleNext => exact h.handleNext
  | peerStep g p => exact h.peerStep g p
  | fire n => exact h.fire n
  | pass ms => exact h.pass ms

theorem sound_new (delay capacity : Nat) : Sound (System.new delay capacity) where
  bounded m hm := by cases hm
  phase := Or.inr (Or.inr ⟨rfl, ⟨rfl, rfl, rfl, rfl, rfl⟩, fun m hm => by cases hm⟩)

theorem sound_run (delay capacity : Nat) (as : List Action) :
    Sound ((System.new delay capacity).run as) :=
  run_invariant (fun _ a h => h.perform a) (sound_new delay capacity) as

theorem Holding.online (h : s.Holding) : s.Online := by
  refine ⟨h.state, by rw [h.connection]; rfl, h.reconnect, h.timers, ?_⟩
  rcases h.sourced with ⟨⟨reading, ht⟩, _⟩ | ⟨_, before, reason, after, hq, _⟩
  · refine Or.inl ⟨⟨s.client.generation, reading⟩, ?_, rfl⟩
    rw [ht]
    exact List.mem_singleton_self _
  · refine Or.inr ⟨reason, ?_⟩
    rw [hq]
    exact List.mem_append_right _ List.mem_cons_self

/-- **The phases of a session**, after every run of a closed session: one that runs is online or
retrying and never both, one that does not run is idle, and there are never two connection tasks
or two timers. -/
theorem phase_of_run (delay capacity : Nat) (as : List Action) :
    let s := (System.new delay capacity).run as
    (s.client.running = true → Xor s.Online s.Retrying) ∧
    (s.client.running = false → s.Idle) ∧
    s.tasks.length ≤ 1 ∧ s.timers.length ≤ 1 := by
  intro s
  have h : s.Sound := sound_run delay capacity as
  rcases h.phase with hh | hw | hs
  · refine ⟨fun _ => Or.inl ⟨hh.online, fun hr => hh.not_disconnected hr.1⟩, fun hr => ?_, ?_, ?_⟩
    · rw [hh.running] at hr
      cases hr
    · rcases hh.sourced with ⟨⟨reading, ht⟩, _⟩ | ⟨ht, _⟩ <;> simp [ht]
    · simp [hh.timers]
  · obtain ⟨hstate, _, ht, n, _, htimer⟩ := hw.retrying
    refine ⟨fun _ => Or.inr ⟨hw.retrying, ?_⟩, fun hr => ?_, ?_, ?_⟩
    · rintro ⟨ho | ho, _⟩ <;> rw [hstate] at ho <;> cases ho
    · rw [hw.running] at hr
      cases hr
    · simp [ht]
    · rcases htimer with ⟨d, ha, _⟩ | ⟨ha, _⟩ <;> simp [ha]
  · refine ⟨fun hr => ?_, fun _ => hs.idle, ?_, ?_⟩
    · rw [hs.running] at hr
      cases hr
    · simp [hs.idle.2.2.2.1]
    · simp [hs.idle.2.2.2.2]

end runs

end System
end PenPlotter
