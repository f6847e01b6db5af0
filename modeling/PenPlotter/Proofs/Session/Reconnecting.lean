import PenPlotter.Proofs.Session.Turns

/-! # Reconnecting

Connections that are not opened by a start are opened when a reconnect message is handled, which
tells nothing about the timer that has sent it.  In a closed session it is the message of the timer
that was armed when the last end of a connection was handled, and that timer has run its time.

A reconnect that is pending has a timer that was armed somewhere in the run (`Armed`).  The timer is
armed still, or it has run out and sent its message (`Timed`); this is waiting behind the messages
that were waiting before it (`Awaits`).  Each end of a connection leads to one attempt at most,
since each attempt uses up the reconnect that is pending. -/

namespace PenPlotter
namespace System

def Action.starts : Action → Bool
  | .start => true
  | _ => false

/-- The generations of the connections that are opened in an action, but not by a start. -/
def reattemptsIn (s : System) (a : Action) : List ℕ := if a.starts then [] else s.attemptsIn a

/-- The generations of the connections that are opened along a run. -/
def attempts (s : System) (as : List Action) : List ℕ := collect attemptsIn s as

/-- Those of them that are not opened by a start. -/
def reattempts (s : System) (as : List Action) : List ℕ := collect reattemptsIn s as

variable {s : System} {a : Action} {n : ℕ}

/-! ### The pending reconnect -/

section pending

/-- A connection that is not opened by a start is opened by a client that waits, when it handles a
reconnect message. -/
theorem Sound.due_of_reattempt (h : s.Sound) (ha : s.reattemptsIn a ≠ []) :
    a = .handleNext ∧ s.queue.head? = some .reconnectDue ∧ s.Waiting ∧
      (s.reattemptsIn a).length = 1 ∧ (s.perform a).1.client.reconnect = none := by
  have hstarts : a.starts = false := Bool.eq_false_iff.mpr fun h => ha (if_pos h)
  have hopened : s.reattemptsIn a = s.attemptsIn a := if_neg (Bool.eq_false_iff.mp hstarts)
  rw [hopened] at ha ⊢
  cases h.turn a with
  | started action =>
      subst action
      cases hstarts
  | ended n action closing holding effects =>
      rw [attemptsIn, effects] at ha
      exact absurd rfl ha
  | due action head waiting reconnect attempt => exact ⟨action, head, waiting, attempt, reconnect⟩
  | calm attempt => exact absurd attempt ha

theorem Sound.waiting (h : s.Sound) (hrec : s.client.reconnect = some n) : s.Waiting := by
  rcases h.phase with hh | hw | hs
  · rw [hh.reconnect] at hrec
    cases hrec
  · exact hw
  · rw [hs.idle.2.2.1] at hrec
    cases hrec

/-- While the reconnect stays pending, its timer stays armed unless it runs out. -/
theorem Sound.timers_perform (h : s.Sound) (hrec : s.client.reconnect = some n)
    (hrec' : (s.perform a).1.client.reconnect = some n) (ha : ∀ k, a ≠ .fire k) :
    (s.perform a).1.timers = s.timers := by
  have hw := h.waiting hrec
  cases a with
  | start =>
      show (s.react s.client.start).1.timers = _
      rw [show s.client.start = s.client.idle from if_pos hw.running]
      rfl
  | stop =>
      rw [show (s.perform .stop).1 = _ from react_stop (.inr hw)] at hrec'
      cases hrec'
  | reload entries => rfl
  | clear => rfl
  | echo e => rfl
  | handleNext =>
      cases hq : s.queue with
      | nil => rw [perform_handleNext_of_nil hq]
      | cons m rest =>
          have hend : ¬ m.Ends s.client.generation := fun hend =>
            hw.fresh m (by rw [hq]; exact List.mem_cons_self) hend.generation
          have hdue : m ≠ .reconnectDue := by
            rintro rfl
            rw [hw.reconnect_of_due hq] at hrec'
            cases hrec'
          rw [perform_handleNext_of_cons hq, react_of_no_effects (handle_calm hend hdue).1]
  | peerStep g p => exact congrArg System.timers (peerStep_of_no_tasks hw.retrying.2.2.1 g p)
  | fire k => exact absurd rfl (ha k)
  | pass ms => rfl

/-- The message of a timer is waiting that ran out in the session `sent`, and the actions `late`
came after that: the messages that were waiting then are handled first. -/
structure Awaits (sent : System) (late : List Action) (s : System) : Prop where
  turn : late.countP Action.handles ≤ sent.queue.length
  queue : ∃ later,
    s.queue = sent.queue.drop (late.countP Action.handles) ++ .reconnectDue :: later

variable {sent t : System} {late since : List Action} {deadline : ℕ}

theorem Awaits.perform (h : Awaits sent late s) (hs : s.Sound) {a : Action}
    (ha : a = .handleNext → s.queue.head? ≠ some .reconnectDue) :
    Awaits sent (late ++ [a]) (s.perform a).1 := by
  obtain ⟨hturn, later, hq⟩ := h
  cases hhandles : a.handles with
  | true =>
      obtain rfl : a = .handleNext := by
        cases a <;> first | rfl | cases hhandles
      have hcount : (late ++ [Action.handleNext]).countP Action.handles =
          late.countP Action.handles + 1 := by
        rw [List.countP_append]
        rfl
      -- The message is not at the head of the queue, so that another one stands before it.
      have hlt : late.countP Action.handles < sent.queue.length := by
        refine Nat.lt_of_le_of_ne hturn fun heq => ha rfl ?_
        rw [hq, heq, List.drop_length]
        rfl
      rw [List.drop_eq_getElem_cons hlt, List.cons_append] at hq
      refine ⟨hcount ▸ hlt, later, ?_⟩
      rw [perform_handleNext_of_cons hq, queue_react, hcount]
  | false =>
      have hcount : (late ++ [a]).countP Action.handles = late.countP Action.handles := by
        rw [List.countP_append, List.countP_singleton, if_neg (by rw [hhandles]; nofun),
          Nat.add_zero]
      refine ⟨hcount ▸ hturn, ?_⟩
      rw [hcount]
      rcases hs.queue_cases a with hsame | ⟨rfl, -⟩ | ⟨m, hadd, -⟩
      · exact ⟨later, hsame.trans hq⟩
      · cases hhandles
      · exact ⟨later ++ [m], by rw [hadd, hq, List.append_assoc, List.cons_append]⟩

/-- The timer that was armed when the session `t` was reached: it is still armed, or it has run out
when its time had come, and its message is waiting. -/
inductive Timed (t : System) (n deadline : ℕ) : List Action → Prop
  | armed {since : List Action} (timers : (t.run since).timers = [⟨n, deadline⟩]) :
      Timed t n deadline since
  | sent {mid late : List Action} (due : deadline ≤ (t.run mid).now)
      (fires : ((t.run mid).fire n).queue = (t.run mid).queue ++ [.reconnectDue])
      (awaits : Awaits (t.run mid) late (t.run (mid ++ .fire n :: late))) :
      Timed t n deadline (mid ++ .fire n :: late)

theorem Timed.perform (h : Timed t n deadline since) (hs : (t.run since).Sound)
    (hrec : (t.run since).client.reconnect = some n)
    (hrec' : ((t.run since).perform a).1.client.reconnect = some n) :
    Timed t n deadline (since ++ [a]) := by
  cases h with
  | armed timers =>
      by_cases ha : ∃ k, a = .fire k
      · obtain ⟨k, rfl⟩ := ha
        rcases fire_cases_of_single timers k with hsame | ⟨rfl, hdue, hfire⟩
        · refine .armed ?_
          rw [run_concat, show ((t.run since).perform (.fire k)).1 = _ from hsame]
          exact timers
        · refine .sent hdue (congrArg System.queue hfire) ⟨Nat.zero_le _, [], ?_⟩
          rw [run_concat]
          exact congrArg System.queue hfire
      · refine .armed ?_
        rw [run_concat, hs.timers_perform hrec hrec' fun k hk => ha ⟨k, hk⟩]
        exact timers
  | @sent mid late due fires awaits =>
      have hnext := awaits.perform hs (a := a) fun ha hhead => by
        subst ha
        obtain ⟨rest, hq⟩ := List.head?_eq_some_iff.mp hhead
        rw [(hs.waiting hrec).reconnect_of_due hq] at hrec'
        cases hrec'
      rw [← run_concat] at hnext
      have hsplit : mid ++ .fire n :: late ++ [a] = mid ++ .fire n :: (late ++ [a]) := by simp
      rw [hsplit] at hnext ⊢
      exact .sent due fires hnext

/-- When it is the turn of a reconnect message, it is this one: as many messages were handled since
the timer ran out as were waiting then. -/
theorem Awaits.handled_all (h : Awaits sent late s) (hw : s.Waiting)
    (hhead : s.queue.head? = some .reconnectDue) :
    late.countP Action.handles = sent.queue.length := by
  obtain ⟨hturn, later, hq⟩ := h
  refine Nat.le_antisymm hturn ?_
  obtain ⟨-, -, -, n, -, htimer⟩ := hw.retrying
  have hcount : s.queue.count .reconnectDue = 1 := by
    rcases htimer with ⟨-, -, hnone⟩ | ⟨-, hone⟩
    · exact absurd (List.mem_of_head? hhead) hnone
    · exact hone
  rw [← List.drop_eq_nil_iff]
  cases hbefore : sent.queue.drop (late.countP Action.handles) with
  | nil => rfl
  | cons m rest =>
      -- There would be two reconnect messages.
      rw [hbefore, List.cons_append] at hq
      rw [hq] at hhead hcount
      obtain rfl := Option.some.inj hhead
      rw [List.count_cons_self, List.count_append, List.count_cons_self] at hcount
      omega

/-- A pending reconnect and its timer, in a run from `s`: the timer was armed when the end of a
connection was handled after the actions `before`, and no other end was handled in the actions
`since`. -/
structure Armed (s : System) (before since : List Action) (n : ℕ) : Prop where
  closing : (s.run before).Closing
  effects : (s.run before).effectsIn .handleNext = [.armTimer n]
  latest : ∀ g reason, .closed g reason ∉ (s.run (before ++ [.handleNext])).handled since

theorem Armed.perform {before : List Action} (h : Armed s before since n)
    (hquiet : sources (s.run (before ++ .handleNext :: since)).queue = []) (a : Action) :
    Armed s before (since ++ [a]) n where
  closing := h.closing
  effects := h.effects
  latest g reason hmem := by
    rw [handled, collect_concat, List.mem_append] at hmem
    rcases hmem with hmem | hmem
    · exact h.latest g reason hmem
    · -- Nothing of a connection is waiting, and so nothing of one is handled.
      rw [run_since] at hmem
      have hqueue : .closed g reason ∈ (s.run (before ++ .handleNext :: since)).queue := by
        cases a <;> first | exact List.mem_of_head? (Option.mem_toList.mp hmem) | cases hmem
      have hsource : g ∈ sources (s.run (before ++ .handleNext :: since)).queue :=
        List.mem_filterMap.mpr ⟨_, hqueue, rfl⟩
      rw [hquiet] at hsource
      cases hsource

end pending

/-! ### All runs -/

section runs

/-- A pending reconnect has a timer that was armed in the run and is armed still, or has run out
and sent its message, which is waiting. -/
theorem exists_armed_of_run (delay capacity : ℕ) {as : List Action} {n : ℕ}
    (h : ((System.new delay capacity).run as).client.reconnect = some n) :
    let new := System.new delay capacity
    ∃ before since, as = before ++ .handleNext :: since ∧ Armed new before since n ∧
      Timed (new.run (before ++ [.handleNext])) n ((new.run before).now + delay) since := by
  intro new
  induction as using List.reverseRecOn with
  | nil => cases h
  | append_singleton as a ih =>
      have hs : (new.run as).Sound := sound_run delay capacity as
      rw [run_concat] at h
      cases hs.turn a with
      | started _ _ reconnect => rw [reconnect] at h; cases h
      | due _ _ _ reconnect => rw [reconnect] at h; cases h
      | ended n' action closing _ effects reconnect timers =>
          obtain rfl : n' = n := Option.some.inj (reconnect.symm.trans h)
          subst action
          refine ⟨as, [], rfl, ⟨closing, effects, nofun⟩, .armed ?_⟩
          rw [reconnectDelay_run] at timers
          rw [run_concat]
          exact timers
      | calm _ reconnect =>
          have hrec : (new.run as).client.reconnect = some n := by
            rcases reconnect with hnone | hsame
            · rw [hnone] at h
              cases h
            · exact hsame.symm.trans h
          obtain ⟨before, since, rfl, harmed, htimed⟩ := ih hrec
          have hquiet := (lined_run delay capacity _).quiet (Option.isSome_of_eq_some hrec)
          refine ⟨before, since ++ [a], by simp, harmed.perform hquiet a, ?_⟩
          rw [← run_since] at hs hrec h
          exact htimed.perform hs hrec h

/-- Every reconnect that is pending leads to one attempt at most, and only the end of a connection
makes a new one pending. -/
theorem Sound.length_reattempts_le {t : System} (h : t.Sound) {bs : List Action}
    (hbs : ∀ before after, bs = before ++ .handleNext :: after → ¬ (t.run before).Closing) :
    (t.reattempts bs).length + (t.run bs).client.reconnect.toList.length ≤
      t.client.reconnect.toList.length := by
  induction bs using List.reverseRecOn with
  | nil => exact Nat.le_of_eq (Nat.zero_add _)
  | append_singleton bs a ih =>
      have hle := ih fun before after hsplit =>
        hbs before (after ++ [a]) (by rw [hsplit]; simp)
      have hs : (t.run bs).Sound := run_invariant (fun _ a h => h.perform a) h bs
      rw [reattempts, collect_concat, List.length_append, run_concat]
      change (t.reattempts bs).length + _ + _ ≤ _
      by_cases hnone : (t.run bs).reattemptsIn a = []
      · have hrec : ((t.run bs).perform a).1.client.reconnect.toList.length ≤
            (t.run bs).client.reconnect.toList.length := by
          cases hs.turn a with
          | started _ _ reconnect => rw [reconnect]; exact Nat.zero_le _
          | due _ _ _ reconnect => rw [reconnect]; exact Nat.zero_le _
          | ended n action closing => exact absurd closing (hbs bs [] (by rw [action]))
          | calm _ reconnect =>
              rcases reconnect with hnone | hsame
              · rw [hnone]
                exact Nat.zero_le _
              · exact Nat.le_of_eq (congrArg (·.toList.length) hsame)
        rw [hnone, List.length_nil, Nat.add_zero]
        exact Nat.le_trans (Nat.add_le_add_left hrec _) hle
      · obtain ⟨-, -, hw, hone, hused⟩ := hs.due_of_reattempt hnone
        obtain ⟨-, -, -, n, hn, -⟩ := hw.retrying
        rw [hn] at hle
        rw [hone, hused]
        exact hle

/-- As long as the session runs, no start opens a connection. -/
theorem attempts_eq_reattempts (hr : s.client.running = true) {bs : List Action}
    (hbs : .stop ∉ bs) : s.attempts bs = s.reattempts bs := by
  induction bs generalizing s with
  | nil => rfl
  | cons b bs ih =>
      obtain ⟨hb, hbs⟩ := not_or.mp (mt List.mem_cons.mpr hbs)
      have hone : s.attemptsIn b = s.reattemptsIn b := by
        cases b with
        | start =>
            show s.client.start.effects.filterMap Effect.opened? = []
            rw [show s.client.start = s.client.idle from if_pos hr]
            rfl
        | _ => rfl
      show s.attemptsIn b ++ (s.perform b).1.attempts bs =
        s.reattemptsIn b ++ (s.perform b).1.reattempts bs
      rw [hone, ih (running_perform hr (Ne.symm hb)) hbs]

/-- **Reconnects are never early and never doubled**, in every run of a closed session.

Any connection that is not opened by a start is opened when a reconnect message is handled.  This
message was sent by the timer that was armed when the last end of a connection was handled: since
the timer ran out, as many messages were handled as were waiting before it.  The timer ran out at
least the delay after that end was handled.

After the end of a connection is handled and until the next one is, at most one connection is opened
that is not opened by a start, and at most one in all unless the session is stopped. -/
theorem reconnects_on_time_and_once (delay capacity : ℕ) :
    let new := System.new delay capacity
    (∀ as a, (new.run as).reattemptsIn a ≠ [] →
      a = .handleNext ∧ (new.run as).queue.head? = some .reconnectDue ∧
      ∃ before mid late n, as = before ++ .handleNext :: (mid ++ .fire n :: late) ∧
        let ended := new.run before
        let sent := new.run (before ++ .handleNext :: mid)
        ended.Closing ∧ ended.effectsIn .handleNext = [.armTimer n] ∧
        (∀ g reason, .closed g reason ∉
          (ended.perform .handleNext).1.handled (mid ++ .fire n :: late)) ∧
        (sent.perform (.fire n)).1.queue = sent.queue ++ [.reconnectDue] ∧
        late.countP Action.handles = sent.queue.length ∧
        ended.now + delay ≤ sent.now ∧ sent.now ≤ (new.run as).now) ∧
    ∀ as bs,
      let t := ((new.run as).perform .handleNext).1
      (new.run as).Closing →
      (∀ before after, bs = before ++ .handleNext :: after → ¬ (t.run before).Closing) →
      (t.reattempts bs).length ≤ 1 ∧ (.stop ∉ bs → (t.attempts bs).length ≤ 1) := by
  intro new
  refine ⟨fun as a ha => ?_, fun as bs => ?_⟩
  · have hs : (new.run as).Sound := sound_run delay capacity as
    obtain ⟨haction, hhead, hw, -⟩ := hs.due_of_reattempt ha
    refine ⟨haction, hhead, ?_⟩
    obtain ⟨-, -, -, n, hn, htimer⟩ := hw.retrying
    obtain ⟨before, since, rfl, harmed, htimed⟩ := exists_armed_of_run delay capacity hn
    have hlatest := harmed.latest
    rw [run_concat] at hlatest htimed
    cases htimed with
    | armed timers =>
        rw [← run_concat, run_since] at timers
        rcases htimer with ⟨-, -, hnone⟩ | ⟨hnone, -⟩
        · exact absurd (List.mem_of_head? hhead) hnone
        · rw [hnone] at timers
          cases timers
    | @sent mid late due fires awaits =>
        rw [← run_concat, run_since] at due fires awaits
        rw [run_since] at awaits
        refine ⟨before, mid, late, n, rfl, harmed.closing, harmed.effects, hlatest, fires,
          awaits.handled_all hw hhead, due, ?_⟩
        have hlater := now_le_run (new.run (before ++ .handleNext :: mid)) (.fire n :: late)
        rwa [← run_append, List.append_assoc, List.cons_append] at hlater
  · intro t hclosing hbs
    have hs : (new.run as).Sound := sound_run delay capacity as
    have hle := (hs.perform .handleNext).length_reattempts_le hbs
    have hpending : t.client.reconnect.toList.length ≤ 1 := by
      cases t.client.reconnect <;> simp
    have honce : (t.reattempts bs).length ≤ 1 :=
      Nat.le_trans (Nat.le_trans (Nat.le_add_right _ _) hle) hpending
    refine ⟨honce, fun hstop => ?_⟩
    obtain ⟨reason, hhead⟩ := hclosing
    obtain ⟨rest, hq⟩ := List.head?_eq_some_iff.mp hhead
    have hrunning : t.client.running = true :=
      running_perform (a := .handleNext) (hs.holding hq rfl).running nofun
    rwa [attempts_eq_reattempts hrunning hstop]

-- The message of a timer that ran out before a stop is handled while the next connection is open:
-- it opens none, and the end of that connection is followed by one attempt.
example :
    let as : List Action := [.start, .peerStep 1 (.refuse "no device"), .handleNext, .pass 10,
      .fire 0, .stop, .start, .peerStep 3 .accept, .peerStep 3 .finish, .handleNext, .handleNext,
      .handleNext, .fire 1, .pass 10, .fire 1, .handleNext]
    (new 10 3).attempts as = [1, 3, 4] ∧ (new 10 3).reattempts as = [4] := by decide

end runs

end System
end PenPlotter
