import PenPlotter.Proofs.Session.Reception

/-! # What an action does about connections and timers

`Turn` lists what an action of a sound session can do about connections and timers: a start opens a
connection, the end of a connection arms a timer, a reconnect message opens a connection, and
nothing else opens one or arms one.  Messages wait in the order of their connections; while a
reconnect is pending, nothing of a connection is waiting (`Lined`). -/

namespace PenPlotter
namespace System

def reaction? (s : System) : Action → Option Reaction
  | .start => some s.client.start
  | .stop => some s.client.stop
  | .reload entries => some (s.client.reload entries)
  | .clear => some s.client.clear
  | .handleNext => s.queue.head?.map s.client.handle
  | _ => none

/-- What is done to connections and timers in an action. -/
def effectsIn (s : System) (a : Action) : List Effect := (s.reaction? a).elim [] Reaction.effects

/-- The generations of the connections that are opened in an action. -/
def attemptsIn (s : System) (a : Action) : List ℕ := (s.effectsIn a).filterMap Effect.opened?

/-- The next message tells of the end of the current connection. -/
def Closing (s : System) : Prop :=
  ∃ reason, s.queue.head? = some (.closed s.client.generation reason)

variable {s s' : System} {a : Action}

/-! ### The turns -/

section turns

/-- What an action of a sound session does about connections and timers. -/
inductive Turn (s : System) (a : Action) (s' : System) : Prop
  /-- A start opens a connection. -/
  | started (action : a = .start) (stopped : s.client.running = false)
      (reconnect : s'.client.reconnect = none) (attempt : (s.attemptsIn a).length = 1)
  /-- The end of the connection arms a timer. -/
  | ended (n : ℕ) (action : a = .handleNext) (closing : s.Closing) (holding : s.Holding)
      (effects : s.effectsIn a = [.armTimer n]) (reconnect : s'.client.reconnect = some n)
      (timers : s'.timers = [⟨n, s.now + s.client.reconnectDelay⟩])
  /-- A reconnect message opens a connection. -/
  | due (action : a = .handleNext) (head : s.queue.head? = some .reconnectDue) (waiting : s.Waiting)
      (reconnect : s'.client.reconnect = none) (attempt : (s.attemptsIn a).length = 1)
  /-- No connection is opened, and no reconnect becomes pending. -/
  | calm (attempt : s.attemptsIn a = [])
      (reconnect : s'.client.reconnect = none ∨ s'.client.reconnect = s.client.reconnect)

theorem Turn.of_no_effects (heffects : s.effectsIn a = [])
    (hrec : s'.client.reconnect = s.client.reconnect) : Turn s a s' := by
  refine .calm ?_ (.inr hrec)
  rw [attemptsIn, heffects, List.filterMap_nil]

theorem effects_stop (c : Client) : c.stop.effects.filterMap Effect.opened? = [] := by
  unfold Client.stop
  split
  · rfl
  · cases c.connection <;> cases c.reconnect <;> rfl

/-- Messages other than the end of the current connection and reconnect messages have nothing to do
with timers and open no connection. -/
theorem handle_calm {c : Client} {m : Message} (hend : ¬ m.Ends c.generation)
    (hdue : m ≠ .reconnectDue) :
    (c.handle m).effects = [] ∧ (c.handle m).client.reconnect = c.reconnect := by
  cases m with
  | opened g =>
      simp only [Client.handle, Client.setState]
      split_ifs <;> exact ⟨rfl, rfl⟩
  | payload g text =>
      simp only [Client.handle]
      split
      · exact ⟨rfl, rfl⟩
      · refine ⟨effects_handlePayload c text, ?_⟩
        unfold Client.handlePayload
        split
        · rw [c.client_merge]
        · rfl
  | closed g reason =>
      have hg : g ≠ c.generation := by
        rintro rfl
        exact hend ⟨reason, rfl⟩
      rw [handle_of_stale (m := .closed g reason) rfl hg]
      exact ⟨rfl, rfl⟩
  | reconnectDue => exact absurd rfl hdue
  | localEcho e =>
      refine ⟨effects_merge c e .localEcho, ?_⟩
      show (c.merge e .localEcho).client.reconnect = _
      rw [c.client_merge]

theorem Turn.start (h : s.Sound) : Turn s .start (s.perform .start).1 := by
  have hclient : (s.perform .start).1.client = s.client.start.client := client_react s _
  cases hr : s.client.running with
  | true =>
      have hidle : s.client.start = s.client.idle := if_pos hr
      refine .of_no_effects ?_ ?_
      · show s.client.start.effects = []
        rw [hidle]
        rfl
      · rw [hclient, hidle]
        rfl
  | false =>
      obtain ⟨hstate, hconn, hrec, -⟩ := (Stopped.of_sound h hr).idle
      have hstart : s.client.start = Client.connect { s.client with running := true } :=
        if_neg (by rw [hr]; nofun)
      rw [connect_of_disconnected (c := { s.client with running := true }) hstate hconn] at hstart
      refine .started rfl hr ?_ ?_
      · rw [hclient, hstart]
        exact hrec
      · show (s.client.start.effects.filterMap Effect.opened?).length = 1
        rw [hstart]
        rfl

theorem Turn.stop (h : s.Sound) : Turn s .stop (s.perform .stop).1 := by
  refine .calm (effects_stop s.client) ?_
  rcases react_stop_cases h with ⟨-, hsame⟩ | hhalt
  · exact .inr (congrArg (·.client.reconnect) hsame)
  · exact .inl (congrArg (·.client.reconnect) hhalt)

theorem effectsIn_handleNext {m : Message} {rest : List Message} (hq : s.queue = m :: rest) :
    s.effectsIn .handleNext = (s.client.handle m).effects := by
  unfold effectsIn reaction?
  rw [hq]
  rfl

theorem perform_handleNext_of_nil (hq : s.queue = []) : (s.perform .handleNext).1 = s := by
  show s.handleNext.1 = s
  unfold System.handleNext
  rw [hq]

theorem perform_handleNext_of_cons {m : Message} {rest : List Message} (hq : s.queue = m :: rest) :
    (s.perform .handleNext).1 = ({ s with queue := rest }.react (s.client.handle m)).1 := by
  show s.handleNext.1 = _
  unfold System.handleNext
  rw [hq]

/-- A client that waits uses the pending reconnect up when it handles a reconnect message. -/
theorem Waiting.handle_due (h : s.Waiting) :
    s.client.handle .reconnectDue =
      ⟨{ s.client with reconnect := none, generation := s.client.generation + 1,
                       connection := some (s.client.generation + 1), state := .connecting },
        some (.stateChanged .connecting), [.openConnection (s.client.generation + 1)]⟩ := by
  obtain ⟨hstate, hconn, -⟩ := h.retrying
  rw [handle_reconnectDue_of_running h.running,
    connect_of_disconnected (c := { s.client with reconnect := none }) hstate hconn]

theorem Waiting.reconnect_of_due (h : s.Waiting) {rest : List Message}
    (hq : s.queue = .reconnectDue :: rest) : (s.perform .handleNext).1.client.reconnect = none := by
  rw [perform_handleNext_of_cons hq, client_react, h.handle_due]

theorem Turn.reconnectDue (h : s.Sound) {rest : List Message}
    (hq : s.queue = .reconnectDue :: rest) :
    Turn s .handleNext (s.perform .handleNext).1 := by
  have hclient : (s.perform .handleNext).1.client = (s.client.handle .reconnectDue).client := by
    rw [perform_handleNext_of_cons hq, client_react]
  -- Unless the client waits for it, the message does nothing.
  have hidle : s.client.handle .reconnectDue = s.client.idle →
      Turn s .handleNext (s.perform .handleNext).1 := by
    intro hidle
    refine .of_no_effects ?_ ?_
    · rw [effectsIn_handleNext hq, hidle]
      rfl
    · rw [hclient, hidle]
      rfl
  rcases h.phase with hh | hw | hs
  · refine hidle ?_
    rw [handle_reconnectDue_of_running hh.running, forget_reconnect hh.reconnect,
      connect_of_not_disconnected hh.not_disconnected]
  · refine .due rfl (by rw [hq]; rfl) hw (hw.reconnect_of_due hq) ?_
    rw [attemptsIn, effectsIn_handleNext hq, hw.handle_due]
    rfl
  · refine hidle ?_
    rw [handle_reconnectDue_of_stopped hs.running, forget_reconnect hs.idle.2.2.1]

theorem Turn.closed (h : s.Sound) {reason : String} {rest : List Message}
    (hq : s.queue = .closed s.client.generation reason :: rest) :
    Turn s .handleNext (s.perform .handleNext).1 := by
  have hh := h.holding hq rfl
  have hhandle := hh.handle_closed reason
  have hstep := perform_handleNext_of_cons hq
  rw [hhandle, react_of_effect rfl] at hstep
  refine .ended s.client.timersArmed rfl ⟨reason, by rw [hq]; rfl⟩ hh ?_ ?_ ?_
  · rw [effectsIn_handleNext hq, hhandle]
  · rw [hstep]
    rfl
  · rw [hstep]
    show s.timers ++ [_] = _
    rw [hh.timers]
    rfl

theorem Turn.handleNext (h : s.Sound) : Turn s .handleNext (s.perform .handleNext).1 := by
  cases hq : s.queue with
  | nil =>
      refine .of_no_effects ?_ ?_
      · unfold effectsIn reaction?
        rw [hq]
        rfl
      · rw [perform_handleNext_of_nil hq]
  | cons m rest =>
      by_cases hend : m.Ends s.client.generation
      · obtain ⟨reason, rfl⟩ := hend
        exact .closed h hq
      by_cases hdue : m = .reconnectDue
      · subst hdue
        exact .reconnectDue h hq
      obtain ⟨heffects, hrec⟩ := handle_calm hend hdue
      refine .of_no_effects ((effectsIn_handleNext hq).trans heffects) ?_
      rw [perform_handleNext_of_cons hq, client_react]
      exact hrec

/-- Every action of a sound session is one of the turns. -/
theorem Sound.turn (h : s.Sound) (a : Action) : Turn s a (s.perform a).1 := by
  cases a with
  | start => exact .start h
  | stop => exact .stop h
  | reload entries => exact .of_no_effects rfl rfl
  | clear => exact .of_no_effects rfl rfl
  | echo e => exact .of_no_effects rfl rfl
  | handleNext => exact .handleNext h
  | peerStep g p =>
      exact .of_no_effects rfl (congrArg Client.reconnect (client_peerStep s g p))
  | fire k => exact .of_no_effects rfl (congrArg Client.reconnect (client_fire s k))
  | pass ms => exact .of_no_effects rfl rfl

end turns

/-! ### What is waiting -/

section lined

/-- An action takes the first message from the queue or adds a message at its end: one of no
connection, or one of a connection that is held. -/
theorem Sound.queue_cases (h : s.Sound) (a : Action) :
    (s.perform a).1.queue = s.queue ∨
    (a = .handleNext ∧ ∃ m, s.queue = m :: (s.perform a).1.queue) ∨
    ∃ m, (s.perform a).1.queue = s.queue ++ [m] ∧
      (m.generation? = none ∨
        m.generation? = some s.client.generation ∧ s.client.reconnect = none) := by
  cases a with
  | start => exact .inl (queue_react s _)
  | stop => exact .inl (queue_react s _)
  | reload entries => exact .inl (queue_react s _)
  | clear => exact .inl (queue_react s _)
  | echo e => exact .inr (.inr ⟨.localEcho e, rfl, .inl rfl⟩)
  | handleNext =>
      cases hq : s.queue with
      | nil =>
          left
          rw [perform_handleNext_of_nil hq, hq]
      | cons m rest =>
          refine .inr (.inl ⟨rfl, m, ?_⟩)
          rw [perform_handleNext_of_cons hq, queue_react]
  | peerStep g p =>
      rcases s.queue_peerStep g p with hsame | ⟨t, ht, m, hm, hadd⟩
      · exact .inl hsame
      · obtain ⟨-, hgen⟩ := h.generation_of_mem ht
        refine .inr (.inr ⟨m, hadd, .inr ⟨hm.trans (congrArg some hgen), ?_⟩⟩)
        rcases h.phase with hh | hw | hs
        · exact hh.reconnect
        · rw [hw.retrying.2.2.1] at ht
          cases ht
        · exact hs.idle.2.2.1
  | fire k =>
      rcases s.queue_fire k with hsame | hadd
      · exact .inl hsame
      · exact .inr (.inr ⟨.reconnectDue, hadd, .inl rfl⟩)
  | pass ms => exact .inl rfl

/-- The connections whose messages are waiting, in their order. -/
def sources (queue : List Message) : List ℕ := queue.filterMap Message.generation?

/-- Messages wait in the order of their connections, and only messages of no connection wait while
a reconnect is pending. -/
structure Lined (s : System) : Prop where
  sorted : (sources s.queue).Pairwise (· ≤ ·)
  quiet : s.client.reconnect.isSome → sources s.queue = []

theorem sources_cons (m : Message) (queue : List Message) :
    sources (m :: queue) = m.generation?.toList ++ sources queue := by
  unfold sources
  cases h : m.generation? with
  | none => exact List.filterMap_cons_none h
  | some g => exact List.filterMap_cons_some h

theorem sources_concat (queue : List Message) (m : Message) :
    sources (queue ++ [m]) = sources queue ++ m.generation?.toList := by
  have hone : sources [m] = m.generation?.toList := by
    rw [sources_cons]
    exact List.append_nil _
  rw [← hone]
  exact List.filterMap_append

/-- When the end of the current connection is handled, only messages of no connection are left. -/
theorem Lined.quiet_of_closing (h : s.Lined) (hs : s.Sound) {m : Message} {rest : List Message}
    (hq : s.queue = m :: rest) (hend : m.Ends s.client.generation) : sources rest = [] := by
  rw [List.eq_nil_iff_forall_not_mem]
  intro g hg
  obtain ⟨x, hx, hxg⟩ := List.mem_filterMap.mp hg
  have hsorted := h.sorted
  rw [hq, sources_cons, hend.generation] at hsorted
  have hle : s.client.generation ≤ g := (List.pairwise_cons.mp hsorted).1 g hg
  have hge : g ≤ s.client.generation := by
    refine hs.bounded x ?_ g hxg
    rw [hq]
    exact List.mem_cons_of_mem _ hx
  have hne : x.generation? ≠ some s.client.generation := by
    have hh := hs.holding hq hend.generation
    rcases hh.sourced with ⟨-, hne⟩ | ⟨-, hending⟩
    · refine absurd hend (hne m ?_)
      rw [hq]
      exact List.mem_cons_self
    · rw [hq] at hending
      exact (hending.of_head hend x hx).2
  rw [hxg, Nat.le_antisymm hge hle] at hne
  exact hne rfl

theorem Lined.perform (h : s.Lined) (hs : s.Sound) (a : Action) : (s.perform a).1.Lined where
  sorted := by
    rcases hs.queue_cases a with hsame | ⟨-, m, hcons⟩ | ⟨m, hadd, hm⟩
    · rw [hsame]
      exact h.sorted
    · have hsorted := h.sorted
      rw [hcons, sources_cons] at hsorted
      exact (List.pairwise_append.mp hsorted).2.1
    · rw [hadd, sources_concat]
      rcases hm with hm | ⟨hm, -⟩
      · rw [hm]
        simpa using h.sorted
      · rw [hm, List.pairwise_append]
        refine ⟨h.sorted, List.pairwise_singleton _ _, fun g hg g' hg' => ?_⟩
        obtain ⟨x, hx, hxg⟩ := List.mem_filterMap.mp hg
        rw [List.mem_singleton.mp hg']
        exact hs.bounded x hx g hxg
  quiet hrec' := by
    -- A reconnect that is pending was pending before, or the end of the connection is handled.
    have hpending : s.client.reconnect.isSome → sources (s.perform a).1.queue = [] := by
      intro hrec
      have hquiet := h.quiet hrec
      rcases hs.queue_cases a with hsame | ⟨-, m, hcons⟩ | ⟨m, hadd, hm⟩
      · rw [hsame]
        exact hquiet
      · rw [hcons, sources_cons] at hquiet
        exact (List.append_eq_nil_iff.mp hquiet).2
      · rcases hm with hm | ⟨-, hnone⟩
        · rw [hadd, sources_concat, hquiet, hm]
          rfl
        · rw [hnone] at hrec
          cases hrec
    cases hs.turn a with
    | started _ _ reconnect =>
        rw [reconnect] at hrec'
        cases hrec'
    | ended n action closing =>
        obtain ⟨reason, hhead⟩ := closing
        subst action
        obtain ⟨rest, hq⟩ := List.head?_eq_some_iff.mp hhead
        rw [perform_handleNext_of_cons hq, queue_react]
        exact h.quiet_of_closing hs hq ⟨reason, rfl⟩
    | due _ _ _ reconnect =>
        rw [reconnect] at hrec'
        cases hrec'
    | calm _ reconnect =>
        rcases reconnect with hnone | hsame
        · rw [hnone] at hrec'
          cases hrec'
        · rw [hsame] at hrec'
          exact hpending hrec'

theorem lined_run (delay capacity : ℕ) (as : List Action) :
    Lined ((System.new delay capacity).run as) := by
  induction as using List.reverseRecOn with
  | nil => exact ⟨.nil, nofun⟩
  | append_singleton as a ih =>
      rw [run_concat]
      exact ih.perform (sound_run delay capacity as) a

end lined

/-! ### The client, its delay and the clock -/

section clock

theorem running_perform (hr : s.client.running = true) (ha : a ≠ .stop) :
    (s.perform a).1.client.running = true := by
  cases a with
  | start =>
      show (s.react s.client.start).1.client.running = true
      rw [show s.client.start = s.client.idle from if_pos hr]
      exact hr
  | stop => exact absurd rfl ha
  | reload entries => exact hr
  | clear => exact hr
  | echo e => exact hr
  | handleNext =>
      cases hq : s.queue with
      | nil => rwa [perform_handleNext_of_nil hq]
      | cons m rest =>
          rw [perform_handleNext_of_cons hq, client_react]
          exact (follows_handle s.client m).running.trans hr
  | peerStep g p => exact (congrArg Client.running (client_peerStep s g p)).trans hr
  | fire k => exact (congrArg Client.running (client_fire s k)).trans hr
  | pass ms => exact hr

variable (c : Client)

theorem reconnectDelay_setState (state : StreamState) :
    (c.setState state).1.reconnectDelay = c.reconnectDelay := by
  unfold Client.setState
  split <;> rfl

theorem reconnectDelay_connect : c.connect.client.reconnectDelay = c.reconnectDelay := by
  unfold Client.connect
  split
  · rfl
  · exact reconnectDelay_setState _ _

theorem reconnectDelay_start : c.start.client.reconnectDelay = c.reconnectDelay := by
  unfold Client.start
  split
  · rfl
  · exact reconnectDelay_connect _

theorem reconnectDelay_stop : c.stop.client.reconnectDelay = c.reconnectDelay := by
  unfold Client.stop
  split
  · rfl
  · exact reconnectDelay_setState _ _

theorem reconnectDelay_scheduleReconnect :
    c.scheduleReconnect.1.reconnectDelay = c.reconnectDelay := by
  unfold Client.scheduleReconnect
  split <;> rfl

theorem reconnectDelay_handle (m : Message) :
    (c.handle m).client.reconnectDelay = c.reconnectDelay := by
  cases m with
  | opened g =>
      simp only [Client.handle]
      split
      · rfl
      · exact reconnectDelay_setState _ _
  | payload g text =>
      simp only [Client.handle, Client.handlePayload]
      split
      · rfl
      · split
        · rw [c.client_merge]
        · rfl
  | closed g reason =>
      simp only [Client.handle]
      split
      · rfl
      · rw [reconnectDelay_scheduleReconnect, reconnectDelay_setState]
  | reconnectDue =>
      simp only [Client.handle]
      split
      · rw [reconnectDelay_connect]
      · rfl
  | localEcho e =>
      show (c.merge e .localEcho).client.reconnectDelay = _
      rw [c.client_merge]

theorem reconnectDelay_perform (s : System) (a : Action) :
    (s.perform a).1.client.reconnectDelay = s.client.reconnectDelay := by
  cases a with
  | start => exact (congrArg _ (client_react s _)).trans (reconnectDelay_start _)
  | stop => exact (congrArg _ (client_react s _)).trans (reconnectDelay_stop _)
  | reload entries => rfl
  | clear => rfl
  | echo e => rfl
  | handleNext =>
      cases hq : s.queue with
      | nil => rw [perform_handleNext_of_nil hq]
      | cons m rest =>
          rw [perform_handleNext_of_cons hq, client_react, reconnectDelay_handle]
  | peerStep g p => exact congrArg _ (client_peerStep s g p)
  | fire k => exact congrArg _ (client_fire s k)
  | pass ms => rfl

theorem reconnectDelay_run (delay capacity : ℕ) (as : List Action) :
    ((System.new delay capacity).run as).client.reconnectDelay = delay :=
  run_invariant (P := fun s => s.client.reconnectDelay = delay)
    (fun s a h => (reconnectDelay_perform s a).trans h) rfl as

theorem now_react (s : System) (r : Reaction) : (s.react r).1.now = s.now := by
  have hfold : ∀ (effects : List Effect) (s : System),
      (effects.foldl carryOut s).now = s.now := by
    intro effects
    induction effects with
    | nil => exact fun _ => rfl
    | cons e effects ih => exact fun s => (ih _).trans (by cases e <;> rfl)
  exact hfold r.effects _

theorem now_le_perform (s : System) (a : Action) : s.now ≤ (s.perform a).1.now := by
  cases a with
  | start => exact Nat.le_of_eq (now_react s _).symm
  | stop => exact Nat.le_of_eq (now_react s _).symm
  | reload entries => exact Nat.le_refl _
  | clear => exact Nat.le_refl _
  | echo e => exact Nat.le_refl _
  | handleNext =>
      have hsame : (s.perform .handleNext).1.now = s.now := by
        cases hq : s.queue with
        | nil => rw [perform_handleNext_of_nil hq]
        | cons m rest => rw [perform_handleNext_of_cons hq, now_react]
      exact Nat.le_of_eq hsame.symm
  | peerStep g p =>
      show s.now ≤ (s.peerStep g p).now
      unfold peerStep
      split
      · exact Nat.le_refl _
      · split <;> exact Nat.le_refl _
  | fire k =>
      show s.now ≤ (s.fire k).now
      unfold fire
      split
      · split <;> exact Nat.le_refl _
      · exact Nat.le_refl _
  | pass ms => exact Nat.le_add_right _ _

theorem now_le_run (s : System) (as : List Action) : s.now ≤ (s.run as).now :=
  run_invariant (P := fun s' => s.now ≤ s'.now)
    (fun s' a h => Nat.le_trans h (now_le_perform s' a)) (Nat.le_refl _) as

theorem run_append (s : System) (as bs : List Action) : s.run (as ++ bs) = (s.run as).run bs := by
  induction as generalizing s with
  | nil => rfl
  | cons a as ih => exact ih _

theorem run_since (s : System) (before since : List Action) (a : Action) :
    (s.run (before ++ [a])).run since = s.run (before ++ a :: since) := by
  rw [← run_append, List.append_assoc, List.singleton_append]

end clock

end System
end PenPlotter
