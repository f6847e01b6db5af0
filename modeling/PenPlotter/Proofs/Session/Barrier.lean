import PenPlotter.Proofs.Session.Announcement

/-! # Stopping a session

A stop parts what came before it from what comes after it.  The messages that are waiting at that
moment are still handled one by one, but except for local echoes they change nothing any more,
whatever happens in between and even if the session is started again.

Messages of connections are told by their generation, which is an old one after the stop.  A
reconnect message tells nothing about its timer.  It is harmless because it stands before all
messages of later connections: until it has been handled none of these can have ended, so that no
timer is armed that it could take the place of, and the client is online if it runs at all.
`System.Behind` keeps this through every run, and `stop_is_barrier` is the main statement. -/

namespace PenPlotter
namespace System

def Action.handles : Action → Bool
  | .handleNext => true
  | _ => false

/-- The session after a stop, at which the generation was `limit`; the messages `old` were waiting
then and have not been handled yet. -/
structure Behind (limit : Nat) (old : List Message) (s : System) : Prop where
  sound : s.Sound
  /-- The old messages stand before all others, which come from later connections. -/
  queue : ∃ later, s.queue = old ++ later ∧
    ∀ m ∈ later, ∀ g, m.generation? = some g → limit < g
  stale : ∀ m ∈ old, ∀ g, m.generation? = some g → g < limit
  limit_le : limit ≤ s.client.generation
  limit_lt : s.client.running = true → limit < s.client.generation
  /-- No reconnect is pending as long as old messages are waiting. -/
  settled : old ≠ [] → s.client.reconnect = none ∧
    (s.client.running = true → s.client.state ≠ .disconnected)

variable {s : System} {limit : Nat} {old : List Message}

/-! ### Messages that change nothing -/

section dropping

/-- A message of another generation and a reconnect message for which nothing is pending change
nothing. -/
theorem handle_eq_idle {c : Client} {m : Message} (hgen : m.generation? ≠ some c.generation)
    (hrec : c.reconnect = none) (hstate : c.running = true → c.state ≠ .disconnected)
    (hecho : ∀ e, m ≠ .localEcho e) : c.handle m = c.idle := by
  cases hm : m.generation? with
  | some g => exact handle_of_stale hm fun h => hgen (h ▸ hm)
  | none =>
      cases m with
      | opened g => cases hm
      | payload g text => cases hm
      | closed g reason => cases hm
      | localEcho e => exact absurd rfl (hecho e)
      | reconnectDue =>
          rcases Bool.eq_false_or_eq_true c.running with hr | hr
          · rw [handle_reconnectDue_of_running hr, forget_reconnect hrec,
              connect_of_not_disconnected (hstate hr)]
          · rw [handle_reconnectDue_of_stopped hr, forget_reconnect hrec]

theorem handleNext_of_idle {m : Message} {rest : List Message} (hq : s.queue = m :: rest)
    (hm : s.client.handle m = s.client.idle) : s.handleNext = ({ s with queue := rest }, none) := by
  unfold handleNext
  rw [hq]
  show react _ (s.client.handle m) = _
  rw [hm]
  rfl

theorem Behind.handle_head {m : Message} (h : Behind limit (m :: old) s)
    (hecho : ∀ e, m ≠ .localEcho e) : s.client.handle m = s.client.idle := by
  obtain ⟨hrec, hstate⟩ := h.settled (by simp)
  refine handle_eq_idle (fun hg => ?_) hrec hstate hecho
  have hlt : s.client.generation < limit := h.stale m List.mem_cons_self _ hg
  have hle := h.limit_le
  omega

end dropping

/-! ### What the actions leave alone -/

section actions

/-- A step of a connection task puts at most one message of that connection into the queue. -/
theorem queue_peerStep (s : System) (g : Nat) (p : PeerStep) :
    (s.peerStep g p).queue = s.queue ∨
      ∃ t ∈ s.tasks, ∃ m, m.generation? = some t.generation ∧
        (s.peerStep g p).queue = s.queue ++ [m] := by
  unfold peerStep
  split
  · exact Or.inl rfl
  · rename_i t ht
    split
    · exact Or.inl rfl
    · rename_i m task ha
      refine Or.inr ⟨t, List.mem_of_find?_eq_some ht, m, ?_, rfl⟩
      rcases answer?_cases ha with ⟨hend, _⟩ | ⟨hm, _⟩
      · exact hend.generation
      · exact hm

theorem queue_fire (s : System) (n : Nat) :
    (s.fire n).queue = s.queue ∨ (s.fire n).queue = s.queue ++ [.reconnectDue] := by
  unfold fire
  split
  · split
    · exact Or.inr rfl
    · exact Or.inl rfl
  · exact Or.inl rfl

/-- The later client runs if the earlier one does, and no generation comes back. -/
structure Follows (c c' : Client) : Prop where
  running : c'.running = c.running
  generation : c.generation ≤ c'.generation

theorem Follows.refl (c : Client) : Follows c c := ⟨rfl, Nat.le_refl _⟩

theorem Follows.setState {c c' : Client} (h : Follows c c') (state : StreamState) :
    Follows c (c'.setState state).1 := by
  unfold Client.setState
  split
  · exact h
  · exact ⟨h.running, h.generation⟩

theorem Follows.connect {c c' : Client} (h : Follows c c') : Follows c c'.connect.client := by
  unfold Client.connect
  split
  · exact h
  · have hnext : Follows c { c' with generation := c'.generation + 1,
                                     connection := some (c'.generation + 1) } :=
      ⟨h.running, Nat.le_succ_of_le h.generation⟩
    exact hnext.setState .connecting

theorem Follows.scheduleReconnect {c c' : Client} (h : Follows c c') :
    Follows c c'.scheduleReconnect.1 := by
  unfold Client.scheduleReconnect
  split
  · exact ⟨h.running, h.generation⟩
  · exact h

theorem follows_merge (c : Client) (e : Entry) (origin : Origin) :
    Follows c (c.merge e origin).client := by
  rw [c.client_merge e origin]
  exact ⟨rfl, Nat.le_refl _⟩

/-- Handling a message neither starts nor stops a session. -/
theorem follows_handle (c : Client) (m : Message) : Follows c (c.handle m).client := by
  cases m with
  | opened g =>
      simp only [Client.handle]
      split
      · exact .refl c
      · exact (Follows.refl c).setState .connected
  | payload g text =>
      simp only [Client.handle, Client.handlePayload]
      split
      · exact .refl c
      · split
        · exact follows_merge c _ .stream
        · exact .refl c
  | closed g reason =>
      simp only [Client.handle]
      split
      · exact .refl c
      · have hgone : Follows c { c with connection := none } := ⟨rfl, Nat.le_refl _⟩
        exact (hgone.setState .disconnected).scheduleReconnect
  | reconnectDue =>
      have hused : Follows c { c with reconnect := none } := ⟨rfl, Nat.le_refl _⟩
      simp only [Client.handle]
      split
      · exact hused.connect
      · exact hused
  | localEcho e => exact follows_merge c e .localEcho

end actions

/-! ### Behind a stop -/

section steps

/-- An action that leaves the control state of the client alone and puts messages of later
connections into the queue at most. -/
theorem Behind.of_queue {s' : System} (h : Behind limit old s) (hsound : s'.Sound)
    (hclient : s'.client = { s.client with log := s'.client.log })
    (hqueue : s'.queue = s.queue ∨ ∃ m, s'.queue = s.queue ++ [m] ∧
      ∀ g, m.generation? = some g → limit < g) : Behind limit old s' where
  sound := hsound
  queue := by
    obtain ⟨later, hq, hlater⟩ := h.queue
    rcases hqueue with hsame | ⟨m, hadd, hm⟩
    · exact ⟨later, hsame.trans hq, hlater⟩
    · refine ⟨later ++ [m], ?_, ?_⟩
      · rw [hadd, hq, List.append_assoc]
      · intro x hx
        rcases List.mem_append.mp hx with hx | hx
        · exact hlater x hx
        · rw [List.mem_singleton.mp hx]
          exact hm
  stale := h.stale
  limit_le := by
    rw [hclient]
    exact h.limit_le
  limit_lt := by
    rw [hclient]
    exact h.limit_lt
  settled := by
    rw [hclient]
    exact h.settled

theorem Sound.generation_of_mem (h : s.Sound) {t : ConnectionTask} (ht : t ∈ s.tasks) :
    s.client.running = true ∧ t.generation = s.client.generation := by
  rcases h.phase with hh | hw | hs
  · rcases hh.sourced with ⟨⟨reading, htasks⟩, _⟩ | ⟨htasks, _⟩ <;> rw [htasks] at ht
    · rw [List.mem_singleton.mp ht]
      exact ⟨hh.running, rfl⟩
    · cases ht
  · rw [hw.retrying.2.2.1] at ht
    cases ht
  · rw [hs.idle.2.2.2.1] at ht
    cases ht

theorem Behind.peerStep (h : Behind limit old s) (g : Nat) (p : PeerStep) :
    Behind limit old (s.peerStep g p) := by
  refine h.of_queue (h.sound.peerStep g p) (by rw [client_peerStep]) ?_
  rcases s.queue_peerStep g p with hq | ⟨t, ht, m, hm, hq⟩
  · exact Or.inl hq
  · refine Or.inr ⟨m, hq, fun g hg => ?_⟩
    obtain ⟨hrun, hgen⟩ := h.sound.generation_of_mem ht
    obtain rfl : t.generation = g := Option.some.inj (hm.symm.trans hg)
    rw [hgen]
    exact h.limit_lt hrun

theorem Behind.fire (h : Behind limit old s) (n : Nat) : Behind limit old (s.fire n) := by
  refine h.of_queue (h.sound.fire n) (by rw [client_fire]) ?_
  rcases s.queue_fire n with hq | hq
  · exact Or.inl hq
  · exact Or.inr ⟨.reconnectDue, hq, nofun⟩

theorem queue_react (s : System) (r : Reaction) : (s.react r).1.queue = s.queue := by
  have hfold : ∀ (effects : List Effect) (s : System),
      (effects.foldl carryOut s).queue = s.queue := by
    intro effects
    induction effects with
    | nil => exact fun _ => rfl
    | cons e effects ih => exact fun s => (ih _).trans (by cases e <;> rfl)
  exact hfold r.effects _

theorem Behind.start (h : Behind limit old s) : Behind limit old (s.react s.client.start).1 := by
  by_cases hrun : s.client.running = true
  · have hidle : s.client.start = s.client.idle := if_pos hrun
    rw [hidle]
    exact h
  have hstopped : s.Stopped := by
    rcases h.sound.phase with hh | hw | hs
    · exact absurd hh.running hrun
    · exact absurd hw.running hrun
    · exact hs
  obtain ⟨hstate, hconn, hrec, _, _⟩ := hstopped.idle
  have hclient : (s.react s.client.start).1.client =
      { s.client with running := true, generation := s.client.generation + 1,
                      connection := some (s.client.generation + 1), state := .connecting } := by
    have hconnect := connect_of_disconnected (c := { s.client with running := true }) hstate hconn
    rw [client_react, show s.client.start = Client.connect { s.client with running := true } from
      if_neg hrun, hconnect]
  refine ⟨h.sound.start, ?_, h.stale, ?_, ?_, ?_⟩
  · rw [queue_react]
    exact h.queue
  · rw [hclient]
    exact Nat.le_succ_of_le h.limit_le
  · rw [hclient]
    exact fun _ => Nat.lt_succ_of_le h.limit_le
  · rw [hclient]
    exact fun _ => ⟨hrec, fun _ => nofun⟩

/-- A session that runs comes to rest. -/
theorem react_stop_cases (h : s.Sound) :
    (s.Stopped ∧ (s.react s.client.stop).1 = s) ∨
      (s.react s.client.stop).1 =
        { s with client := halted s.client, tasks := [], timers := [] } := by
  rcases h.phase with hh | hw | hs
  · exact Or.inr (react_stop (Or.inl hh))
  · exact Or.inr (react_stop (Or.inr hw))
  · left
    rw [stop_of_idle hs.running hs.idle]
    exact ⟨hs, rfl⟩

theorem Behind.stop (h : Behind limit old s) : Behind limit old (s.react s.client.stop).1 := by
  have hsound := h.sound.stop
  rcases react_stop_cases h.sound with ⟨_, hsame⟩ | hhalt
  · rw [hsame]
    exact h
  · rw [hhalt] at hsound ⊢
    exact ⟨hsound, h.queue, h.stale, Nat.le_succ_of_le h.limit_le, nofun, fun _ => ⟨rfl, nofun⟩⟩

/-- Handling the next message takes the first of the old ones, if there are any. -/
theorem Behind.handleNext (h : Behind limit old s) : Behind limit old.tail s.handleNext.1 := by
  have hsound := h.sound.handleNext
  obtain ⟨later, hq, hlater⟩ := h.queue
  cases old with
  | nil =>
      cases later with
      | nil =>
          have hsame : s.handleNext.1 = s := by
            unfold System.handleNext
            rw [hq]
            rfl
          rw [hsame]
          exact h
      | cons m later =>
          have hnext : s.handleNext = react { s with queue := later } (s.client.handle m) := by
            unfold System.handleNext
            rw [hq]
            rfl
          have hfollows := follows_handle s.client m
          rw [hnext] at hsound ⊢
          refine ⟨hsound, ⟨later, queue_react _ _, ?_⟩, nofun, ?_, ?_, fun hne => absurd rfl hne⟩
          · exact fun x hx => hlater x (List.mem_cons_of_mem _ hx)
          · rw [client_react]
            exact Nat.le_trans h.limit_le hfollows.generation
          · rw [client_react]
            intro hrun
            rw [hfollows.running] at hrun
            exact Nat.lt_of_lt_of_le (h.limit_lt hrun) hfollows.generation
  | cons m old =>
      have hstale : ∀ x ∈ old, ∀ g, x.generation? = some g → g < limit :=
        fun x hx => h.stale x (List.mem_cons_of_mem _ hx)
      by_cases hecho : ∃ e, m = .localEcho e
      · obtain ⟨e, rfl⟩ := hecho
        have hnext : s.handleNext =
            react { s with queue := old ++ later } (s.client.merge e .localEcho) := by
          unfold System.handleNext
          rw [hq]
          rfl
        obtain ⟨log, hlog⟩ := react_merge { s with queue := old ++ later } e .localEcho
        rw [hnext, hlog] at hsound ⊢
        exact ⟨hsound, ⟨later, rfl, hlater⟩, hstale, h.limit_le, h.limit_lt,
          fun _ => h.settled (List.cons_ne_nil _ _)⟩
      · have hidle := h.handle_head fun e he => hecho ⟨e, he⟩
        rw [handleNext_of_idle hq hidle] at hsound ⊢
        exact ⟨hsound, ⟨later, rfl, hlater⟩, hstale, h.limit_le, h.limit_lt,
          fun _ => h.settled (List.cons_ne_nil _ _)⟩

theorem Behind.perform (h : Behind limit old s) (a : Action) :
    Behind limit (if a.handles then old.tail else old) (s.perform a).1 := by
  cases a with
  | start => exact h.start
  | stop => exact h.stop
  | reload entries => exact h.of_queue (h.sound.relog _) rfl (Or.inl rfl)
  | clear => exact h.of_queue (h.sound.relog _) rfl (Or.inl rfl)
  | echo e => exact h.of_queue (h.sound.enqueue_echo e) rfl (Or.inr ⟨_, rfl, nofun⟩)
  | handleNext => exact h.handleNext
  | peerStep g p => exact h.peerStep g p
  | fire n => exact h.fire n
  | pass ms => exact h.of_queue (h.sound.pass ms) rfl (Or.inl rfl)

/-- After any further actions the messages that are left of the old ones stand before all others. -/
theorem Behind.run (h : Behind limit old s) (as : List Action) :
    Behind limit (old.drop (as.countP Action.handles)) (s.run as) := by
  induction as generalizing s old with
  | nil => exact h
  | cons a as ih =>
      have hnext := ih (h.perform a)
      rw [List.countP_cons]
      cases ha : a.handles <;> rw [ha] at hnext
      · exact hnext
      · rwa [if_pos rfl, ← List.drop_one, List.drop_drop, Nat.add_comm] at hnext

theorem Sound.behind_stop (h : s.Sound) :
    let s' := (s.react s.client.stop).1
    Behind s'.client.generation s.queue s' ∧ s'.Stopped ∧
      s.client.generation ≤ s'.client.generation := by
  intro s'
  have hsound : s'.Sound := h.stop
  rcases react_stop_cases h with ⟨hs, hsame⟩ | hhalt
  · rw [show s' = s from hsame]
    refine ⟨⟨h, ⟨[], by simp, nofun⟩, ?_, Nat.le_refl _, ?_, ?_⟩, hs, Nat.le_refl _⟩
    · intro m hm g hg
      have hne : g ≠ s.client.generation := fun heq => hs.fresh m hm (heq ▸ hg)
      exact Nat.lt_of_le_of_ne (h.bounded m hm g hg) hne
    · intro hrun
      rw [hs.running] at hrun
      cases hrun
    · intro _
      refine ⟨hs.idle.2.2.1, fun hrun => ?_⟩
      rw [hs.running] at hrun
      cases hrun
  · rw [show s' = _ from hhalt] at hsound ⊢
    refine ⟨⟨hsound, ⟨[], by simp, nofun⟩, ?_, Nat.le_refl _, nofun, fun _ => ⟨rfl, nofun⟩⟩, ?_,
      Nat.le_succ _⟩
    · exact fun m hm g hg => Nat.lt_succ_of_le (h.bounded m hm g hg)
    · rcases hsound.phase with hh | hw | hs
      · cases hh.running
      · cases hw.running
      · exact hs

end steps

/-! ### At rest -/

section rest

/-- The session does not run, and neither a connection nor a timer has come about since the client
was `c`. -/
structure Rests (c : Client) (s : System) : Prop where
  stopped : s.Stopped
  generation : s.client.generation = c.generation
  timersArmed : s.client.timersArmed = c.timersArmed

variable {c : Client}

theorem Stopped.of_sound (h : s.Sound) (hr : s.client.running = false) : s.Stopped := by
  rcases h.phase with hh | hw | hs
  · rw [hh.running] at hr
    cases hr
  · rw [hw.running] at hr
    cases hr
  · exact hs

/-- Handling a message leaves everything but the log as it is. -/
theorem Stopped.handleNext (h : s.Stopped) :
    ∃ log, s.handleNext.1.client = { s.client with log } := by
  unfold System.handleNext
  split
  · exact ⟨s.client.log, rfl⟩
  · rename_i m rest hq
    rw [client_react]
    by_cases hecho : ∃ e, m = .localEcho e
    · obtain ⟨e, rfl⟩ := hecho
      exact ⟨_, s.client.client_merge e .localEcho⟩
    · have hfresh : m.generation? ≠ some s.client.generation := by
        refine h.fresh m ?_
        rw [hq]
        exact List.mem_cons_self
      have hrest : s.client.running = true → s.client.state ≠ .disconnected := by
        rw [h.running]
        nofun
      rw [handle_eq_idle hfresh h.idle.2.2.1 hrest fun e he => hecho ⟨e, he⟩]
      exact ⟨s.client.log, rfl⟩

/-- Only a start ends the rest. -/
theorem Rests.perform (h : Rests c s) (hsound : s.Sound) {a : Action} (ha : a ≠ .start) :
    Rests c (s.perform a).1 := by
  have hclient : ∃ log, (s.perform a).1.client = { s.client with log } := by
    cases a with
    | start => exact absurd rfl ha
    | stop =>
        refine ⟨s.client.log, ?_⟩
        show (s.react s.client.stop).1.client = _
        rw [stop_of_idle h.stopped.running h.stopped.idle]
        rfl
    | reload entries => exact ⟨_, rfl⟩
    | clear => exact ⟨_, rfl⟩
    | echo e => exact ⟨s.client.log, rfl⟩
    | handleNext => exact h.stopped.handleNext
    | peerStep g p => exact ⟨s.client.log, client_peerStep s g p⟩
    | fire n => exact ⟨s.client.log, client_fire s n⟩
    | pass ms => exact ⟨s.client.log, rfl⟩
  obtain ⟨log, hlog⟩ := hclient
  refine ⟨.of_sound (hsound.perform a) ?_, ?_, ?_⟩ <;> rw [hlog]
  · exact h.stopped.running
  · exact h.generation
  · exact h.timersArmed

theorem Rests.run (h : Rests c s) (hsound : s.Sound) {as : List Action} (has : .start ∉ as) :
    Rests c (s.run as) := by
  induction as generalizing s with
  | nil => exact h
  | cons a as ih =>
      obtain ⟨ha, has⟩ := not_or.mp (mt List.mem_cons.mpr has)
      exact ih (h.perform hsound (Ne.symm ha)) (hsound.perform a) has

end rest

/-- **A stop is a barrier**, after every run of a closed session and before every further one.  At
the stop no task and no timer is left that could still send anything, and what comes into the queue
later comes from later connections.  So all messages of earlier connections and timers are among
those that were waiting, and are handled first.  Handling one of them changes nothing and is no
event, also if the session was started again meanwhile, except that local echoes are still merged.
Until the next start nothing comes about, and a second stop changes nothing. -/
theorem stop_is_barrier (delay capacity : Nat) (as bs : List Action) :
    let s := (System.new delay capacity).run as
    let s' := (s.perform .stop).1
    let t := s'.run bs
    let left := s.queue.drop (bs.countP Action.handles)
    (s'.tasks = [] ∧ s'.timers = []) ∧
    (∃ later, t.queue = left ++ later ∧
      ∀ m ∈ later, ∀ g, m.generation? = some g → s.client.generation < g) ∧
    (∀ m rest, left = m :: rest → (∀ e, m ≠ .localEcho e) →
      t.perform .handleNext = ({ t with queue := t.queue.tail }, none)) ∧
    (∀ e rest, left = .localEcho e :: rest →
      t.perform .handleNext =
        { t with queue := t.queue.tail }.react (t.client.merge e .localEcho)) ∧
    (.start ∉ bs →
      t.client.state = .disconnected ∧ t.tasks = [] ∧ t.timers = [] ∧
      t.client.generation = s'.client.generation ∧
      t.client.timersArmed = s'.client.timersArmed ∧ t.perform .stop = (t, none)) := by
  intro s s' t left
  have hsound : s.Sound := sound_run delay capacity as
  obtain ⟨hbehind, hstopped, hle⟩ := hsound.behind_stop
  have ht : Behind s'.client.generation left t := hbehind.run bs
  obtain ⟨later, hq, hlater⟩ := ht.queue
  refine ⟨hstopped.idle.2.2.2, ⟨later, hq, ?_⟩, ?_, ?_, ?_⟩
  · exact fun m hm g hg => Nat.lt_of_le_of_lt hle (hlater m hm g hg)
  · intro m rest hleft hecho
    rw [hleft] at hq ht
    show t.handleNext = _
    rw [handleNext_of_idle hq (ht.handle_head hecho), hq]
    rfl
  · intro e rest hleft
    rw [hleft] at hq
    show t.handleNext = _
    unfold handleNext
    rw [hq]
    rfl
  · intro hstart
    have hrests : Rests s'.client t := Rests.run ⟨hstopped, rfl, rfl⟩ hbehind.sound hstart
    obtain ⟨hstate, _, _, htasks, htimers⟩ := hrests.stopped.idle
    refine ⟨hstate, htasks, htimers, hrests.generation, hrests.timersArmed, ?_⟩
    show t.react t.client.stop = _
    rw [stop_of_idle hrests.stopped.running hrests.stopped.idle]
    rfl

/-- The reconnect message of a timer that ran out before the stop can still be waiting when the next
connection is open. -/
example :
    let s := (System.new 10 3).run [.start, .peerStep 1 (.refuse "no device"), .handleNext,
      .pass 10, .fire 0, .stop, .start, .peerStep 3 .accept]
    s.queue = [.reconnectDue, .opened 3] ∧ s.client.connection = some 3 := by decide

end System
end PenPlotter
