import PenPlotter.Proofs.Session.Reordering
import PenPlotter.Proofs.Session.Story

/-! # The log and the connection

What comes in as text cannot disturb the connection.  The operations that start and stop a session
and the messages of connections and timers control the connection (`Operation.controls`); payloads,
local echoes, reloading and clearing have to do with the log alone.

A `Glimpse` is what an operation shows of the connection, and `Client.watch` what a whole run shows.
An operation that controls the connection does not look at the log (`perform_relog`), and any other
one changes nothing but the log (`exists_log_perform`): what is seen at the former is the same
whether the latter take place or not (`filter_watch`). -/

namespace PenPlotter

/-- The operation is about the connection and not about the log. -/
def Operation.controls : Operation → Bool
  | .start => true
  | .stop => true
  | .reload _ => false
  | .clear => false
  | .handle (.opened _) => true
  | .handle (.payload _ _) => false
  | .handle (.closed _ _) => true
  | .handle .reconnectDue => true
  | .handle (.localEcho _) => false

/-- What can be seen of the connection when an operation is done. -/
structure Glimpse where
  state : StreamState
  generation : ℕ
  /-- A reconnect is pending. -/
  pending : Bool
  /-- The generations of the connections that were opened. -/
  opened : List ℕ
  /-- The changes of the state that were published. -/
  changes : List StreamState
deriving Repr, DecidableEq

def Reaction.glimpse (r : Reaction) : Glimpse where
  state := r.client.state
  generation := r.client.generation
  pending := r.client.reconnect.isSome
  opened := r.effects.filterMap Effect.opened?
  changes := r.event.toList.filterMap SessionEvent.state?

def Client.relog (c : Client) (log : SessionLog) : Client := { c with log }

/-- The same reaction of a client with another log. -/
def Reaction.relog (r : Reaction) (log : SessionLog) : Reaction :=
  { r with client := r.client.relog log }

namespace Client

/-- A run as it is seen: its operations, each with what it shows of the connection. -/
def watch (c : Client) : List Operation → List (Operation × Glimpse)
  | [] => []
  | o :: ops => (o, (c.perform o).glimpse) :: (c.perform o).client.watch ops

/-! ### Operations that control the connection -/

section control

variable (c : Client) (log : SessionLog)

theorem setState_relog (state : StreamState) :
    (c.relog log).setState state = ((c.setState state).1.relog log, (c.setState state).2) := by
  by_cases hs : c.state = state <;> simp [setState, relog, hs]

theorem scheduleReconnect_relog :
    (c.relog log).scheduleReconnect =
      (c.scheduleReconnect.1.relog log, c.scheduleReconnect.2) := by
  cases hr : c.running && c.reconnect.isNone <;> simp [scheduleReconnect, relog, hr]

theorem connect_relog : (c.relog log).connect = c.connect.relog log := by
  by_cases hc : c.state ≠ .disconnected ∨ c.connection.isSome
  · simp [connect, idle, relog, Reaction.relog, hc]
  · have hmoved := setState_relog
      { c with generation := c.generation + 1, connection := some (c.generation + 1) }
      log .connecting
    simp only [relog] at hmoved
    simp [connect, relog, Reaction.relog, hc, hmoved]

theorem start_relog : (c.relog log).start = c.start.relog log := by
  cases hr : c.running with
  | true => simp [start, idle, relog, Reaction.relog, hr]
  | false => simpa [start, relog, hr] using connect_relog { c with running := true } log

theorem stop_relog : (c.relog log).stop = c.stop.relog log := by
  cases hc : !c.running && c.connection.isNone && c.reconnect.isNone with
  | true => simp [stop, idle, relog, Reaction.relog, hc]
  | false =>
      have hmoved := setState_relog
        { c with running := false, connection := none, reconnect := none,
                 generation := c.generation + 1 } log .disconnected
      simp only [relog] at hmoved
      simp [stop, relog, Reaction.relog, hc, hmoved]

theorem handle_opened_relog (g : ℕ) :
    (c.relog log).handle (.opened g) = (c.handle (.opened g)).relog log := by
  by_cases hg : g = c.generation
  · have hmoved := c.setState_relog log .connected
    simp only [relog] at hmoved
    simp [handle, relog, Reaction.relog, hg, hmoved]
  · simp [handle, idle, relog, Reaction.relog, hg]

theorem handle_closed_relog (g : ℕ) (reason : String) :
    (c.relog log).handle (.closed g reason) = (c.handle (.closed g reason)).relog log := by
  by_cases hg : g = c.generation
  · have hmoved := setState_relog { c with connection := none } log .disconnected
    have hretry :=
      scheduleReconnect_relog (setState { c with connection := none } .disconnected).1 log
    simp only [relog] at hmoved hretry
    simp [handle, relog, Reaction.relog, hg, hmoved, hretry]
  · simp [handle, idle, relog, Reaction.relog, hg]

theorem handle_reconnectDue_relog :
    (c.relog log).handle .reconnectDue = (c.handle .reconnectDue).relog log := by
  cases hr : c.running with
  | true => simpa [handle, relog, hr] using connect_relog { c with reconnect := none } log
  | false => simp [handle, idle, relog, Reaction.relog, hr]

/-- Controlling the connection does not depend on the log and leaves it alone. -/
theorem perform_relog {o : Operation} (ho : o.controls = true) :
    (c.relog log).perform o = (c.perform o).relog log := by
  match o with
  | .start => exact c.start_relog log
  | .stop => exact c.stop_relog log
  | .handle (.opened g) => exact c.handle_opened_relog log g
  | .handle (.closed g reason) => exact c.handle_closed_relog log g reason
  | .handle .reconnectDue => exact c.handle_reconnectDue_relog log

end control

/-! ### Operations on the log -/

section log

variable (c : Client)

theorem glimpse_merge (e : Entry) (origin : Origin) :
    (c.merge e origin).glimpse = c.idle.glimpse := by
  unfold merge
  split <;> rfl

theorem glimpse_handlePayload (text : String) :
    (c.handlePayload text).glimpse = c.idle.glimpse := by
  unfold handlePayload
  split
  · exact c.glimpse_merge _ .stream
  · rfl

variable {o : Operation}

/-- An operation that does not control the connection changes nothing but the log. -/
theorem exists_log_perform (ho : o.controls = false) :
    ∃ log, (c.perform o).client = c.relog log := by
  match o with
  | .reload entries => exact ⟨_, rfl⟩
  | .clear => exact ⟨_, rfl⟩
  | .handle (.payload g text) =>
      simp only [perform, handle]
      split
      · exact ⟨c.log, rfl⟩
      · exact c.exists_log_handlePayload text
  | .handle (.localEcho e) => exact c.exists_log_merge e .localEcho

/-- An operation that does not control the connection shows no more than doing nothing. -/
theorem glimpse_perform (ho : o.controls = false) : (c.perform o).glimpse = c.idle.glimpse := by
  match o with
  | .reload entries => rfl
  | .clear => rfl
  | .handle (.payload g text) =>
      simp only [perform, handle]
      split
      · rfl
      · exact c.glimpse_handlePayload text
  | .handle (.localEcho e) => exact c.glimpse_merge e .localEcho

end log

/-! ### Runs -/

section runs

/-- What is seen of the connection when it is controlled does not depend on the log, nor on what
else is done. -/
theorem filter_watch (c : Client) (log : SessionLog) (ops : List Operation) :
    ((c.relog log).watch ops).filter (·.1.controls) = c.watch (ops.filter Operation.controls) := by
  induction ops generalizing c log with
  | nil => rfl
  | cons o ops ih =>
      rw [watch, List.filter_cons, List.filter_cons]
      cases ho : o.controls with
      | true =>
          rw [if_pos rfl, if_pos rfl, perform_relog c log ho]
          exact congrArg _ (ih (c.perform o).client log)
      | false =>
          obtain ⟨log', hlog⟩ := (c.relog log).exists_log_perform ho
          rw [if_neg Bool.false_ne_true, if_neg Bool.false_ne_true, hlog]
          exact ih c log'

/-- What comes with no operation on the log is all seen where the connection is controlled. -/
theorem flatMap_watch {β : Type} (f : Glimpse → List β)
    (hidle : ∀ c : Client, f c.idle.glimpse = []) (c : Client) (ops : List Operation) :
    (c.watch ops).flatMap (fun seen => f seen.2) =
      ((c.watch ops).filter (·.1.controls)).flatMap fun seen => f seen.2 := by
  induction ops generalizing c with
  | nil => rfl
  | cons o ops ih =>
      rw [watch, List.flatMap_cons, ih, List.filter_cons]
      cases ho : o.controls with
      | true => rw [if_pos rfl, List.flatMap_cons]
      | false => rw [if_neg Bool.false_ne_true, c.glimpse_perform ho, hidle, List.nil_append]

/-- **Payloads do not disturb the connection.**  Two runs with the same starts, stops and messages
of connections and timers, whatever else they do to their logs and in between, show the same of the
connection: the same states, generations and pending reconnects at each of these operations, and
the same connections opened and changes of the state published all in all.  An operation on the log
shows nothing new, whatever the client. -/
theorem same_connection_seen (delay capacity capacity' : ℕ) {ops ops' : List Operation}
    (h : ops.filter Operation.controls = ops'.filter Operation.controls) :
    let seen := (new delay capacity).watch ops
    let seen' := (new delay capacity').watch ops'
    seen.filter (·.1.controls) = seen'.filter (·.1.controls) ∧
    seen.flatMap (·.2.opened) = seen'.flatMap (·.2.opened) ∧
    seen.flatMap (·.2.changes) = seen'.flatMap (·.2.changes) ∧
    ∀ (c : Client) (o : Operation), o.controls = false →
      (c.perform o).glimpse = c.idle.glimpse := by
  intro seen seen'
  have hseen : seen.filter (·.1.controls) = seen'.filter (·.1.controls) := by
    -- The two new clients differ in their logs alone, by how many keys these remember.
    show (((new delay 0).relog (SessionLog.new capacity)).watch ops).filter _ =
      (((new delay 0).relog (SessionLog.new capacity')).watch ops').filter _
    rw [filter_watch, filter_watch, h]
  refine ⟨hseen, ?_, ?_, fun c o => c.glimpse_perform⟩
  · rw [flatMap_watch Glimpse.opened fun _ => rfl, hseen,
      ← flatMap_watch Glimpse.opened fun _ => rfl]
  · rw [flatMap_watch Glimpse.changes fun _ => rfl, hseen,
      ← flatMap_watch Glimpse.changes fun _ => rfl]

/-- A connection opens, ends and is opened again, whatever is sent over it. -/
theorem same_connection_seen_with_payloads :
    let calm : List Operation :=
      [.start, .handle (.opened 1), .handle (.closed 1 "gone"), .handle .reconnectDue, .stop]
    let disturbed : List Operation :=
      [.handle (.payload 0 ""), .start, .handle (.payload 1 "\x7b\"type\": \"history\""),
        .handle (.opened 1), .handle (.payload 1 "null"), .handle (.payload 2 "[1e999"), .clear,
        .handle (.closed 1 "gone"), .reload [], .handle .reconnectDue, .handle (.payload 2 "\u0000"),
        .stop]
    disturbed.filter Operation.controls = calm.filter Operation.controls ∧
    (((new 5000 1000).watch disturbed).filter (·.1.controls)).map Prod.snd =
      [⟨.connecting, 1, false, [1], [.connecting]⟩, ⟨.connected, 1, false, [], [.connected]⟩,
        ⟨.disconnected, 1, true, [], [.disconnected]⟩, ⟨.connecting, 2, false, [2], [.connecting]⟩,
        ⟨.disconnected, 3, false, [], [.disconnected]⟩] := by
  intro calm disturbed
  have hcontrols : disturbed.filter Operation.controls = calm.filter Operation.controls := rfl
  refine ⟨hcontrols, ?_⟩
  rw [(same_connection_seen 5000 1000 1000 hcontrols).1]
  rfl

end runs

end Client
end PenPlotter
