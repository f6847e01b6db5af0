import PenPlotter.Proofs.Session.Lifecycle
import PenPlotter.Proofs.Session.Operations

/-! # What a session announces

Whoever follows the log by the events of the session must learn of every entry.  `Announces` says
that a list of events tells how the log grows: one event for each entry that is appended, in
their order, and nothing else but changes of the stream's state.

Handling messages is announced, whether one message is handled, all that wait
(`System.announces_drain`), or as many as it takes until one of them is an event
(`System.announces_pump`).  A message that is dropped (`Client.Drops`) is not announced and changes
nothing. -/

namespace PenPlotter

/-- The events tell how a log grows from one list of entries to another. -/
inductive Announces : List Entry → List SessionEvent → List Entry → Prop
  | nil {es : List Entry} : Announces es [] es
  | state {es es' : List Entry} {events : List SessionEvent} (state : StreamState) :
      Announces es events es' → Announces es (.stateChanged state :: events) es'
  | append {es es' : List Entry} {events : List SessionEvent} (e : Entry) (origin : Origin) :
      Announces (es ++ [e]) events es' → Announces es (.entryAppended e origin :: events) es'

theorem Announces.trans {es es' es'' : List Entry} {events events' : List SessionEvent}
    (h : Announces es events es') (h' : Announces es' events' es'') :
    Announces es (events ++ events') es'' := by
  induction h with
  | nil => exact h'
  | state s _ ih => exact .state s (ih h')
  | append e origin _ ih => exact .append e origin (ih h')

theorem SessionLog.entries_of_merge {l l' : SessionLog} {e : Entry} (h : l.merge e = (l', true)) :
    l'.entries = l.entries ++ [e] := by
  unfold SessionLog.merge at h
  split at h
  · cases h
  · obtain ⟨rfl, _⟩ := Prod.mk.inj h
    rfl

/-! ### The client -/

namespace Client

section handling

variable {c : Client} {m : Message}

theorem event_setState (c : Client) (s : StreamState) :
    (c.setState s).2 = none ∨ (c.setState s).2 = some (.stateChanged s) := by
  unfold setState
  split
  · exact Or.inl rfl
  · exact Or.inr rfl

theorem event_connect (c : Client) :
    c.connect.event = none ∨ c.connect.event = some (.stateChanged .connecting) := by
  unfold connect
  split
  · exact Or.inl rfl
  · exact event_setState _ _

/-- A message that brings no entry is announced as a change of the stream's state, if at all. -/
theorem event_handle_of_no_delivery (h : c.delivery? m = none) :
    (c.handle m).event = none ∨ ∃ s, (c.handle m).event = some (.stateChanged s) := by
  cases m with
  | opened g =>
      simp only [handle]
      split
      · exact Or.inl rfl
      · exact (c.event_setState .connected).imp_right fun he => ⟨_, he⟩
  | payload g text =>
      left
      simp only [handle]
      split
      · rfl
      · rename_i hg
        unfold handlePayload
        split
        · rename_i e hr
          simp [delivery?, not_not.mp hg, hr] at h
        · rfl
  | closed g reason =>
      simp only [handle]
      split
      · exact Or.inl rfl
      · exact (event_setState _ .disconnected).imp_right fun he => ⟨_, he⟩
  | reconnectDue =>
      simp only [handle]
      split
      · exact (event_connect _).imp_right fun he => ⟨_, he⟩
      · exact Or.inl rfl
  | localEcho e => simp [delivery?] at h

theorem announces_merge (c : Client) (e : Entry) (origin : Origin) :
    Announces c.entries (c.merge e origin).event.toList (c.merge e origin).client.entries := by
  unfold merge
  rcases h : c.log.merge e with ⟨log, _ | _⟩
  · exact .nil
  · have hlog : log.entries = c.entries ++ [e] := SessionLog.entries_of_merge h
    refine .append e origin ?_
    rw [← hlog]
    exact .nil

theorem announces_handle (c : Client) (m : Message) :
    Announces c.entries (c.handle m).event.toList (c.handle m).client.entries := by
  cases hd : c.delivery? m with
  | some d =>
      rw [handle_of_delivery hd]
      exact c.announces_merge d.1 d.2
  | none =>
      have hlog : (c.handle m).client.entries = c.entries :=
        congrArg SessionLog.entries (log_handle_of_no_delivery hd)
      rw [hlog]
      rcases event_handle_of_no_delivery hd with he | ⟨s, he⟩ <;> rw [he]
      · exact .nil
      · exact .state s .nil

/-- The client drops the message: it comes from an old connection, it is no message about an
entry, or it repeats an entry. -/
inductive Drops (c : Client) : Message → Prop
  | stale {m : Message} {g : Nat} : m.generation? = some g → g ≠ c.generation → c.Drops m
  | unread {g : Nat} {text : String} :
      (∀ e, StreamMessage.read text ≠ .ok (some e)) → c.Drops (.payload g text)
  | repeated {m : Message} {e : Entry} : c.Delivers m e → c.log.seen.contains e.key → c.Drops m

theorem handle_of_drops (h : c.Drops m) : c.handle m = c.idle := by
  cases h with
  | stale hm hg => exact System.handle_of_stale hm hg
  | @unread g text hread =>
      simp only [handle]
      split
      · rfl
      · unfold handlePayload
        split
        · rename_i e he
          exact absurd he (hread e)
        · rfl
  | @repeated m e hd hseen =>
      obtain ⟨origin, ho⟩ := hd
      have hmerge : c.log.merge e = (c.log, false) := by
        unfold SessionLog.merge SeenKeys.insert
        rw [if_pos hseen]
      rw [handle_of_delivery ho]
      unfold merge
      rw [hmerge]

end handling

end Client

/-! ### The session with its queue -/

namespace System

/-- Handles messages until one of them is an event, but no more than a given number. -/
def pumpMany (s : System) : Nat → System × Option SessionEvent
  | 0 => (s, none)
  | n + 1 =>
    match s.handleNext with
    | (s', some event) => (s', some event)
    | (s', none) => s'.pumpMany n

/-- Handles messages until one of them is an event; without one all waiting messages are
handled. -/
def pump (s : System) : System × Option SessionEvent := s.pumpMany s.queue.length

section queue

variable {s : System}

theorem client_carryOut (s : System) (e : Effect) : (s.carryOut e).client = s.client := by
  cases e <;> rfl

theorem client_react (s : System) (r : Reaction) : (s.react r).1.client = r.client := by
  have hfold : ∀ (effects : List Effect) (s : System),
      (effects.foldl carryOut s).client = s.client := by
    intro effects
    induction effects with
    | nil => exact fun _ => rfl
    | cons e effects ih => exact fun s => (ih _).trans (s.client_carryOut e)
  exact hfold r.effects _

theorem client_peerStep (s : System) (g : Nat) (p : PeerStep) :
    (s.peerStep g p).client = s.client := by
  unfold peerStep
  split
  · rfl
  · split <;> rfl

theorem client_fire (s : System) (n : Nat) : (s.fire n).client = s.client := by
  unfold fire
  split
  · split <;> rfl
  · rfl

theorem announces_handleNext (s : System) :
    Announces s.client.entries s.handleNext.2.toList s.handleNext.1.client.entries := by
  unfold handleNext
  split
  · exact .nil
  · rw [client_react]
    exact s.client.announces_handle _

theorem announces_handleMany (n : Nat) (s : System) :
    Announces s.client.entries (s.handleMany n).2 (s.handleMany n).1.client.entries := by
  induction n generalizing s with
  | zero => exact .nil
  | succ n ih => exact s.announces_handleNext.trans (ih s.handleNext.1)

theorem announces_drain (s : System) :
    Announces s.client.entries s.drain.2 s.drain.1.client.entries :=
  announces_handleMany s.queue.length s

theorem announces_pumpMany (n : Nat) (s : System) :
    Announces s.client.entries (s.pumpMany n).2.toList (s.pumpMany n).1.client.entries := by
  induction n generalizing s with
  | zero => exact .nil
  | succ n ih =>
      have hnext := s.announces_handleNext
      unfold pumpMany
      rcases h : s.handleNext with ⟨s', _ | event⟩ <;> rw [h] at hnext
      · exact hnext.trans (ih s')
      · exact hnext

theorem announces_pump (s : System) :
    Announces s.client.entries s.pump.2.toList s.pump.1.client.entries :=
  announces_pumpMany s.queue.length s

/-- A message that is dropped is taken from the queue, and nothing else happens. -/
theorem handleNext_of_drops {m : Message} {rest : List Message} (hq : s.queue = m :: rest)
    (hm : s.client.Drops m) : s.handleNext = ({ s with queue := rest }, none) := by
  unfold handleNext
  rw [hq]
  show react _ (s.client.handle m) = _
  rw [Client.handle_of_drops hm]
  rfl

theorem drain_of_drops {m : Message} {rest : List Message} (hq : s.queue = m :: rest)
    (hm : s.client.Drops m) : s.drain = drain { s with queue := rest } := by
  unfold drain
  rw [hq, List.length_cons, handleMany, handleNext_of_drops hq hm]
  rfl

theorem pump_of_drops {m : Message} {rest : List Message} (hq : s.queue = m :: rest)
    (hm : s.client.Drops m) : s.pump = pump { s with queue := rest } := by
  unfold pump
  rw [hq, List.length_cons, pumpMany, handleNext_of_drops hq hm]

end queue

end System
end PenPlotter
