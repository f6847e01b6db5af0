import PenPlotter.Proofs.Session.Publishing

/-! # The story that the bus tells

Whoever listens to the bus of a session can keep up with it.  Every notice tells of a change
(`Change`): a step of the stream's state, a new last entry, another log, or an empty one; and
between two notices nothing changes that can be seen (`Tells`).  Each thing that is done to a
session is a link of this chain, from one operation of the client (`Client.tells_handle`) and one
action (`System.tells_perform`) up to all calls (`System.leads_runT`).

There is one step that the client itself does not rule out, from disconnected to connected: the
opening of a connection would take it if it were handled after the end of the connection or after
a stop.  That it never is follows from `System.Sound`, which is why it is carried along.

`Story` is what can be read off the events alone. -/

namespace PenPlotter

/-- The steps that the state of the stream takes. -/
inductive StreamState.Step : StreamState → StreamState → Prop
  | start : Step .disconnected .connecting
  | accept : Step .connecting .connected
  | refuse : Step .connecting .disconnected
  | finish : Step .connected .disconnected

theorem StreamState.Step.disconnect : ∀ {state : StreamState}, state ≠ .disconnected →
    Step state .disconnected
  | .disconnected, h => absurd rfl h
  | .connecting, _ => .refuse
  | .connected, _ => .finish

/-- An event tells how a session has changed. -/
inductive Change : SessionView → SessionEvent → SessionView → Prop
  | state {state state' : StreamState} (entries : List Entry) :
      state.Step state' → Change ⟨state, entries⟩ (.stateChanged state') ⟨state', entries⟩
  | append (state : StreamState) (entries : List Entry) (entry : Entry) (origin : Origin) :
      Change ⟨state, entries⟩ (.entryAppended entry origin) ⟨state, entries ++ [entry]⟩
  | reload (state : StreamState) (entries entries' : List Entry) :
      Change ⟨state, entries⟩ (.logReloaded entries'.length) ⟨state, entries'⟩
  | clear (state : StreamState) (entries : List Entry) :
      Change ⟨state, entries⟩ .logCleared ⟨state, []⟩

/-- Notices tell all that can be seen of how a session gets from one view to another. -/
inductive Tells : SessionView → List Notice → SessionView → Prop
  | nil (v : SessionView) : Tells v [] v
  | cons {v v' : SessionView} {n : Notice} {ns : List Notice} :
      Change v n.event n.view → Tells n.view ns v' → Tells v (n :: ns) v'

namespace Tells

variable {v v' v'' : SessionView} {n : Notice} {ns ns' : List Notice}

theorem one {e : SessionEvent} (h : Change v e v') : Tells v [⟨e, v'⟩] v' := .cons h (.nil v')

theorem trans (h : Tells v ns v') (h' : Tells v' ns' v'') : Tells v (ns ++ ns') v'' := by
  induction h with
  | nil => exact h'
  | cons hchange _ ih => exact .cons hchange (ih h')

/-- At every notice the story so far has been told. -/
theorem before (h : Tells v (ns ++ n :: ns') v') : Tells v (ns ++ [n]) n.view := by
  induction ns generalizing v with
  | nil =>
      cases h with
      | cons hchange _ => exact one hchange
  | cons m ns ih =>
      cases h with
      | cons hchange hrest => exact .cons hchange (ih hrest)

theorem change (h : Tells v ns v') (hn : n ∈ ns) : ∃ w, Change w n.event n.view := by
  induction h with
  | nil => cases hn
  | cons hchange _ ih =>
      rcases List.mem_cons.mp hn with rfl | hn
      · exact ⟨_, hchange⟩
      · exact ih hn

end Tells

/-! ### The client -/

namespace Client

variable (c : Client)

theorem tells_setState {state : StreamState} (h : c.state ≠ state → c.state.Step state) :
    Tells c.view ((c.setState state).2.toList.map fun e => ⟨e, (c.setState state).1.view⟩)
      (c.setState state).1.view := by
  unfold setState
  split
  case isTrue => exact .nil _
  case isFalse hne => exact .one (.state c.entries (h hne))

theorem tells_connect : Tells c.view c.connect.notices c.connect.client.view := by
  unfold connect
  split
  case isTrue => exact .nil _
  case isFalse h =>
    have hstate : c.state = .disconnected := not_not.mp fun hne => h (.inl hne)
    refine tells_setState
      { c with generation := c.generation + 1, connection := some (c.generation + 1) } fun _ => ?_
    show c.state.Step .connecting
    rw [hstate]
    exact .start

theorem tells_start : Tells c.view c.start.notices c.start.client.view := by
  unfold start
  split
  · exact .nil _
  · exact tells_connect { c with running := true }

theorem tells_stop : Tells c.view c.stop.notices c.stop.client.view := by
  unfold stop
  split
  · exact .nil _
  · exact tells_setState
      { c with running := false, connection := none, reconnect := none,
               generation := c.generation + 1 } StreamState.Step.disconnect

theorem tells_reload (entries : List Entry) :
    Tells c.view (c.reload entries).notices (c.reload entries).client.view :=
  .one (.reload c.state c.entries entries)

theorem tells_clear : Tells c.view c.clear.notices c.clear.client.view :=
  .one (.clear c.state c.entries)

theorem tells_merge (e : Entry) (origin : Origin) :
    Tells c.view (c.merge e origin).notices (c.merge e origin).client.view := by
  unfold merge
  rcases h : c.log.merge e with ⟨log, _ | _⟩
  · exact .nil _
  · have hlog : log.entries = c.entries ++ [e] := SessionLog.entries_of_merge h
    have hchange := Change.append c.state c.entries e origin
    rw [← hlog] at hchange
    exact .one hchange

theorem tells_handlePayload (text : String) :
    Tells c.view (c.handlePayload text).notices (c.handlePayload text).client.view := by
  unfold handlePayload
  split
  · exact c.tells_merge _ .stream
  · exact .nil _

/-- Handling a message, if no connection opens for a client that is disconnected. -/
theorem tells_handle {m : Message} (h : m = .opened c.generation → c.state ≠ .disconnected) :
    Tells c.view (c.handle m).notices (c.handle m).client.view := by
  cases m with
  | opened g =>
      simp only [handle]
      split
      case isTrue => exact .nil _
      case isFalse hg =>
        obtain rfl : g = c.generation := not_not.mp hg
        refine c.tells_setState fun hne => ?_
        have hheld := h rfl
        cases hs : c.state with
        | disconnected => exact absurd hs hheld
        | connecting => exact .accept
        | connected => exact absurd hs hne
  | payload g text =>
      simp only [handle]
      split
      · exact .nil _
      · exact c.tells_handlePayload text
  | closed g reason =>
      simp only [handle]
      split
      · exact .nil _
      · rw [Reaction.notices, view_scheduleReconnect]
        exact tells_setState { c with connection := none } StreamState.Step.disconnect
  | reconnectDue =>
      simp only [handle]
      split
      · exact tells_connect { c with reconnect := none }
      · exact .nil _
  | localEcho e => exact c.tells_merge e .localEcho

end Client

/-! ### The session -/

namespace System

variable {s s' s'' : System} {ns ns' : List Notice}

/-- Something leads from one sound session to another, and the notices tell of it. -/
structure Leads (s : System) (ns : List Notice) (s' : System) : Prop where
  sound : s'.Sound
  tells : Tells s.client.view ns s'.client.view

theorem Leads.refl (h : s.Sound) : Leads s [] s := ⟨h, .nil _⟩

theorem Leads.trans (h : Leads s ns s') (h' : Leads s' ns' s'') : Leads s (ns ++ ns') s'' :=
  ⟨h'.sound, h.tells.trans h'.tells⟩

theorem tells_react {r : Reaction} (h : Tells s.client.view r.notices r.client.view) :
    Tells s.client.view (notices (s.react r)) (s.react r).1.client.view := by
  rw [notices, client_react]
  exact h

theorem tells_handleNext (h : s.Sound) :
    Tells s.client.view (notices s.handleNext) s.handleNext.1.client.view := by
  unfold handleNext
  split
  · exact .nil _
  · rename_i m rest hq
    refine tells_react (s := { s with queue := rest }) (s.client.tells_handle ?_)
    -- A connection that opens is the one that is held.
    rintro rfl
    exact (h.holding hq rfl).not_disconnected

theorem tells_perform (h : s.Sound) (a : Action) :
    Tells s.client.view (notices (s.perform a)) (s.perform a).1.client.view := by
  cases a with
  | start => exact tells_react s.client.tells_start
  | stop => exact tells_react s.client.tells_stop
  | reload entries => exact tells_react (s.client.tells_reload entries)
  | clear => exact tells_react s.client.tells_clear
  | echo e => exact .nil _
  | handleNext => exact tells_handleNext h
  | peerStep g p =>
      rw [show (s.perform (.peerStep g p)).1.client = s.client from s.client_peerStep g p]
      exact .nil _
  | fire n =>
      rw [show (s.perform (.fire n)).1.client = s.client from s.client_fire n]
      exact .nil _
  | pass ms => exact .nil _

theorem leads_perform (h : s.Sound) (a : Action) :
    Leads s (notices (s.perform a)) (s.perform a).1 :=
  ⟨h.perform a, tells_perform h a⟩

theorem leads_handleNext (h : s.Sound) : Leads s (notices s.handleNext) s.handleNext.1 :=
  ⟨h.handleNext, tells_handleNext h⟩

/-- What comes in while the client waits is not seen yet. -/
theorem leads_await (h : s.Sound) (arrivals : List Arrival) : Leads s [] (s.await arrivals) := by
  induction arrivals generalizing s with
  | nil => exact .refl h
  | cons arrival arrivals ih =>
      have hone : Leads s [] (s.perform arrival.toAction).1 := by
        have hlead := leads_perform h arrival.toAction
        cases arrival <;> exact hlead
      exact hone.trans (ih hone.sound)

theorem leads_handleManyT (n : ℕ) (h : s.Sound) :
    Leads s (s.handleManyT n).notices (s.handleManyT n).val.1 := by
  induction n generalizing s with
  | zero => exact .refl h
  | succ n ih =>
      have hnext := leads_handleNext h
      simp only [handleManyT, Told.bind_eq, Told.pure_eq, handleNextT_eq, List.append_nil]
      exact hnext.trans (ih hnext.sound)

theorem leads_pumpT (rounds : List (List Arrival)) (h : s.Sound) :
    Leads s (s.pumpT rounds).notices (s.pumpT rounds).val.1 := by
  induction rounds generalizing s with
  | nil => exact .refl h
  | cons arrivals rounds ih =>
      have hwait := leads_await h arrivals
      have hnext := hwait.trans (leads_handleNext hwait.sound)
      rw [pumpT_cons]
      rcases h : (s.await arrivals).handleNext with ⟨s', _ | event⟩ <;> rw [h] at hnext
      · exact hnext.trans (ih hnext.sound)
      · exact hnext

theorem leads_drainT (rounds : List (List Arrival)) (h : s.Sound) :
    Leads s (s.drainT rounds).notices (s.drainT rounds).val.1 := by
  induction rounds generalizing s with
  | nil => exact leads_handleManyT _ h
  | cons arrivals rounds ih =>
      have hwait := leads_await h arrivals
      unfold drainT
      dsimp only
      split
      · exact hwait
      · have hnext := hwait.trans (leads_handleNext hwait.sound)
        simp only [Told.bind_eq, Told.pure_eq, handleNextT_eq, List.append_nil]
        exact hnext.trans (ih hnext.sound)

theorem leads_callT (call : Call) (h : s.Sound) :
    Leads s (s.callT call).notices (s.callT call).val.1 := by
  cases call with
  | act a =>
      rw [callT_act_eq]
      exact leads_perform h a
  | pump rounds =>
      rw [callT_pump_eq]
      exact leads_pumpT rounds h
  | drain rounds => exact leads_drainT rounds h

theorem leads_runT (calls : List Call) (h : s.Sound) :
    Leads s (s.runT calls).notices (s.runT calls).val := by
  induction calls generalizing s with
  | nil => exact .refl h
  | cons call calls ih =>
      have hcall := leads_callT call h
      exact hcall.trans (ih hcall.sound)

end System

/-! ### What the events tell -/

def SessionEvent.state? : SessionEvent → Option StreamState
  | .stateChanged state => some state
  | _ => none

/-- How many entries there are after an event. -/
def SessionEvent.recount (count : ℕ) : SessionEvent → ℕ
  | .entryAppended _ _ => count + 1
  | .logReloaded count' => count'
  | .logCleared => 0
  | _ => count

/-- The states of the stream, from a first one on, as the events tell of them. -/
def StreamState.walk (state : StreamState) (events : List SessionEvent) : List StreamState :=
  state :: events.filterMap SessionEvent.state?

/-- How a session looks that has published these events since it was new. -/
structure Story (events : List SessionEvent) (v : SessionView) : Prop where
  /-- The states that were published are a walk from disconnected. -/
  steps : (StreamState.disconnected.walk events).IsChain StreamState.Step
  /-- The walk ends in the state of the stream. -/
  state : (StreamState.disconnected.walk events).getLast? = some v.state
  /-- Counting by the events gives the number of entries. -/
  count : events.foldl SessionEvent.recount 0 = v.entries.length

section told

variable {v v' : SessionView} {ns : List Notice}

theorem Tells.steps (h : Tells v ns v') :
    (v.state.walk (ns.map (·.event))).IsChain StreamState.Step := by
  induction h with
  | nil => exact List.IsChain.singleton _
  | @cons v v' n ns hchange _ ih =>
      obtain ⟨event, view⟩ := n
      cases hchange with
      | state entries hstep => exact List.IsChain.cons_cons hstep ih
      | _ => exact ih

theorem Tells.state (h : Tells v ns v') :
    (v.state.walk (ns.map (·.event))).getLast? = some v'.state := by
  induction h with
  | nil => rfl
  | @cons v v' n ns hchange _ ih =>
      obtain ⟨event, view⟩ := n
      cases hchange with
      | state entries hstep => exact List.getLast?_cons_cons.trans ih
      | _ => exact ih

theorem Tells.count (h : Tells v ns v') :
    (ns.map (·.event)).foldl SessionEvent.recount v.entries.length = v'.entries.length := by
  induction h with
  | nil => rfl
  | @cons v v' n ns hchange _ ih =>
      obtain ⟨event, view⟩ := n
      cases hchange with
      | append state entries entry origin =>
          rw [← ih]
          simp [SessionEvent.recount]
      | _ => exact ih

theorem Tells.story (h : Tells ⟨.disconnected, []⟩ ns v) : Story (ns.map (·.event)) v :=
  ⟨h.steps, h.state, h.count⟩

theorem Change.getLast?_of_append {e : Entry} {origin : Origin}
    (h : Change v (.entryAppended e origin) v') : v'.entries.getLast? = some e := by
  cases h
  exact List.getLast?_concat

end told

namespace System

/-- **The bus tells the whole story of a session.**  After any calls, with anything in between, the
state of the stream and the number of entries are those that the published events tell; so they
are when any of the notices comes, and an entry that is announced is the last one then.  What the
next call gives back is what it publishes, in the same order; only starting and stopping give
nothing back, and what they publish is changes of the state. -/
theorem bus_tells_story (delay capacity : ℕ) (calls : List Call) :
    let t := (System.new delay capacity).runT calls
    Story (t.notices.map (·.event)) t.val.client.view ∧
    (∀ before n after, t.notices = before ++ n :: after →
      Story ((before ++ [n]).map (·.event)) n.view ∧
      ∀ e origin, n.event = .entryAppended e origin → n.view.entries.getLast? = some e) ∧
    ∀ call,
      let out := t.val.callT call
      ((System.new delay capacity).runT (calls ++ [call])).notices = t.notices ++ out.notices ∧
      (call.givesBack = true → out.val.2 = out.notices.map (·.event)) ∧
      (call.givesBack = false →
        out.val.2 = [] ∧ ∀ n ∈ out.notices, ∃ state, n.event = .stateChanged state) := by
  intro t
  have htells : Tells ⟨.disconnected, []⟩ t.notices t.val.client.view :=
    (leads_runT calls (sound_new delay capacity)).tells
  refine ⟨htells.story, fun before n after hsplit => ?_, fun call =>
    ⟨?_, fun h => (callT_events t.val h).symm, t.val.callT_silent⟩⟩
  · rw [hsplit] at htells
    refine ⟨htells.before.story, fun e origin he => ?_⟩
    obtain ⟨w, hchange⟩ := htells.change (List.mem_append_right _ List.mem_cons_self)
    rw [he] at hchange
    exact hchange.getLast?_of_append
  · rw [runT_concat]

-- A session is started, its connection opens, the log is cleared, and the session is stopped.
example :
    ((System.new 5000 1000).runT
      [.act .start, .act (.peerStep 1 .accept), .pump [[]], .act .clear, .act .stop]).notices.map
        (·.event) =
      [.stateChanged .connecting, .stateChanged .connected, .logCleared,
        .stateChanged .disconnected] := by decide

end System

end PenPlotter
