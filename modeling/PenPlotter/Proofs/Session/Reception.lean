import Mathlib.Data.List.Induction
import PenPlotter.Proofs.Session.Barrier
import PenPlotter.Proofs.Session.Connection

/-! # The texts of a connection

What a session gets from a connection, in a run in which everything else may happen in between.

The messages of a generation, those that were handled and those that are still waiting, are what
its task sends in answer to the steps that it heard, in this order and once each (`Accounted`).
As long as the session is not stopped, a generation ends only when none of its messages is waiting
any more (`Current`), so that the client reads every text when its turn comes, and drops none
(`stream_texts_once`). -/

namespace PenPlotter
namespace System

open SocketItem ConnectionTask

/-! ### Histories -/

section histories

/-- What is collected along a run, from each action and the session before it. -/
def collect {β : Type} (f : System → Action → List β) (s : System) : List Action → List β
  | [] => []
  | a :: as => f s a ++ collect f (s.perform a).1 as

/-- The step that the task of a generation hears. -/
def heardIn (g : ℕ) (s : System) : Action → List PeerStep
  | .peerStep g' p => if g' = g ∧ s.tasks.any (·.generation == g) then [p] else []
  | _ => []

def handledIn (s : System) : Action → List Message
  | .handleNext => s.queue.head?.toList
  | _ => []

def payload? (g : ℕ) : Message → Option String
  | .payload g' text => if g' = g then some text else none
  | _ => none

/-- The text that the client reads while a generation is the current one. -/
def readIn (g : ℕ) (s : System) (a : Action) : List String :=
  if s.client.generation = g then (handledIn s a).filterMap (payload? g) else []

/-- The steps that the task of a generation has heard. -/
def heard (s : System) (g : ℕ) (as : List Action) : List PeerStep := collect (heardIn g) s as

def handled (s : System) (as : List Action) : List Message := collect handledIn s as

/-- The texts that the client has read while a generation was the current one. -/
def read (s : System) (g : ℕ) (as : List Action) : List String := collect (readIn g) s as

def ofGeneration (g : ℕ) (ms : List Message) : List Message :=
  ms.filter fun m => m.generation? = some g

variable {β : Type} {s : System} {g : ℕ}

theorem collect_concat (f : System → Action → List β) (s : System) (as : List Action)
    (a : Action) : collect f s (as ++ [a]) = collect f s as ++ f (s.run as) a := by
  induction as generalizing s with
  | nil => exact List.append_nil _
  | cons b as ih =>
      rw [List.cons_append, collect, ih, ← List.append_assoc]
      rfl

theorem run_concat (s : System) (as : List Action) (a : Action) :
    s.run (as ++ [a]) = ((s.run as).perform a).1 := by
  induction as generalizing s with
  | nil => rfl
  | cons b as ih => exact ih _

theorem ofGeneration_append (g : ℕ) (ms ms' : List Message) :
    ofGeneration g (ms ++ ms') = ofGeneration g ms ++ ofGeneration g ms' := List.filter_append ..

theorem ofGeneration_singleton_self {m : Message} (h : m.generation? = some g) :
    ofGeneration g [m] = [m] := List.filter_cons_of_pos (by simpa using h)

theorem ofGeneration_singleton_of_ne {m : Message} (h : m.generation? ≠ some g) :
    ofGeneration g [m] = [] := List.filter_cons_of_neg (by simpa using h)

theorem filterMap_ofGeneration (g : ℕ) (ms : List Message) :
    (ofGeneration g ms).filterMap (payload? g) = ms.filterMap (payload? g) := by
  unfold ofGeneration
  rw [List.filterMap_filter]
  congr 1
  funext m
  split
  case isTrue => rfl
  case isFalse h =>
    cases m with
    | payload g' text => exact (if_neg fun hg => h (by simp [Message.generation?, hg])).symm
    | _ => rfl

end histories

/-! ### New tasks -/

section tasks

variable {s : System} {c c' : Client}

/-- Among the effects only the opening of a connection brings a task about. -/
theorem mem_tasks_react {r : Reaction} {t : ConnectionTask} (h : t ∈ (s.react r).1.tasks) :
    t ∈ s.tasks ∨ ∃ g, .openConnection g ∈ r.effects ∧ t = ⟨g, false⟩ := by
  have hfold : ∀ (effects : List Effect) (s : System), t ∈ (effects.foldl carryOut s).tasks →
      t ∈ s.tasks ∨ ∃ g, .openConnection g ∈ effects ∧ t = ⟨g, false⟩ := by
    intro effects
    induction effects with
    | nil => exact fun s h => .inl h
    | cons e effects ih =>
        intro s h
        rcases ih _ h with h | ⟨g, hg, ht⟩
        · cases e with
          | openConnection g =>
              rcases List.mem_append.mp h with h | h
              · exact .inl h
              · exact .inr ⟨g, List.mem_cons_self, List.mem_singleton.mp h⟩
          | abortConnection g => exact .inl (List.mem_of_mem_filter h)
          | armTimer n => exact .inl h
          | abortTimer n => exact .inl h
        · exact .inr ⟨g, List.mem_cons_of_mem _ hg, ht⟩
  exact hfold r.effects { s with client := r.client } h

/-- The generations only go up, and a connection that is opened is of the next one. -/
structure Advances (c : Client) (r : Reaction) : Prop where
  generation : c.generation ≤ r.client.generation
  opens : ∀ g, .openConnection g ∈ r.effects → g = c.generation + 1

theorem generation_setState (c : Client) (state : StreamState) :
    (c.setState state).1.generation = c.generation := by
  unfold Client.setState
  split <;> rfl

theorem opens_of_no_effects {r : Reaction} (h : r.effects = []) :
    ∀ g, .openConnection g ∈ r.effects → g = c.generation + 1 := by
  rw [h]
  simp

theorem advances_idle (h : c.generation ≤ c'.generation) : Advances c c'.idle :=
  ⟨h, opens_of_no_effects rfl⟩

theorem advances_connect (h : c'.generation = c.generation) : Advances c c'.connect := by
  unfold Client.connect
  split
  case isTrue => exact advances_idle (Nat.le_of_eq h.symm)
  case isFalse =>
    refine ⟨?_, fun g hg => ?_⟩
    · show c.generation ≤ (Client.setState _ .connecting).1.generation
      rw [generation_setState, ← h]
      exact Nat.le_succ _
    · obtain rfl := Effect.openConnection.inj (List.mem_singleton.mp hg)
      rw [h]

theorem advances_start (c : Client) : Advances c c.start := by
  unfold Client.start
  split
  case isTrue => exact advances_idle (Nat.le_refl _)
  case isFalse => exact advances_connect rfl

theorem advances_stop (c : Client) : Advances c c.stop := by
  unfold Client.stop
  split
  case isTrue => exact advances_idle (Nat.le_refl _)
  case isFalse =>
    refine ⟨?_, fun g hg => ?_⟩
    · show c.generation ≤ (Client.setState _ .disconnected).1.generation
      rw [generation_setState]
      exact Nat.le_succ _
    · simp at hg

theorem effects_merge (c : Client) (e : Entry) (origin : Origin) :
    (c.merge e origin).effects = [] := by
  unfold Client.merge
  split <;> rfl

theorem effects_handlePayload (c : Client) (text : String) :
    (c.handlePayload text).effects = [] := by
  unfold Client.handlePayload
  split
  · exact effects_merge c _ .stream
  · rfl

theorem advances_handle (c : Client) (m : Message) : Advances c (c.handle m) := by
  refine ⟨(follows_handle c m).generation, ?_⟩
  cases m with
  | opened g =>
      simp only [Client.handle]
      split <;> exact opens_of_no_effects rfl
  | payload g text =>
      simp only [Client.handle]
      split
      · exact opens_of_no_effects rfl
      · exact opens_of_no_effects (effects_handlePayload c text)
  | closed g reason =>
      simp only [Client.handle, Client.scheduleReconnect]
      split
      · exact opens_of_no_effects rfl
      · split <;> simp
  | reconnectDue =>
      simp only [Client.handle]
      split
      · exact (advances_connect rfl).opens
      · exact opens_of_no_effects rfl
  | localEcho e => exact opens_of_no_effects (effects_merge c e .localEcho)

end tasks

/-! ### What a task has sent -/

section accounted

/-- The messages of a generation, handled or waiting, are what its task sends in answer to what it
has heard; the task is where that has brought it, and a generation that has not come yet has heard
nothing. -/
structure Accounted (g : ℕ) (s : System) (heard : List PeerStep) (handled : List Message) :
    Prop where
  sent : ofGeneration g (handled ++ s.queue) = sends (some ⟨g, false⟩) heard
  task : ∀ t ∈ s.tasks, t.generation = g → some t = after (some ⟨g, false⟩) heard
  unborn : s.client.generation < g → heard = []

variable {g : ℕ} {s : System} {heard : List PeerStep} {handled : List Message}

theorem Accounted.react (h : Accounted g s heard handled) {r : Reaction}
    (hr : Advances s.client r) : Accounted g (s.react r).1 heard handled where
  sent := by
    rw [queue_react]
    exact h.sent
  task t ht hg := by
    rcases mem_tasks_react ht with ht | ⟨g', hopen, rfl⟩
    · exact h.task t ht hg
    · obtain rfl : g' = g := hg
      have hnext := hr.opens g' hopen
      rw [h.unborn (by omega)]
      rfl
  unborn hlt := by
    rw [client_react] at hlt
    exact h.unborn (Nat.lt_of_le_of_lt hr.generation hlt)

theorem Accounted.enqueue (h : Accounted g s heard handled) {m : Message}
    (hm : m.generation? ≠ some g) : Accounted g (s.enqueue m) heard handled where
  sent := by
    show ofGeneration g (handled ++ (s.queue ++ [m])) = _
    rw [← List.append_assoc, ofGeneration_append, h.sent, ofGeneration_singleton_of_ne hm,
      List.append_nil]
  task := h.task
  unborn := h.unborn

theorem Accounted.handleNext (h : Accounted g s heard handled) :
    Accounted g s.handleNext.1 heard (handled ++ handledIn s .handleNext) := by
  unfold System.handleNext handledIn
  split
  · rename_i hq
    rw [hq, List.head?_nil, Option.toList_none, List.append_nil]
    exact h
  · rename_i m rest hq
    have htaken : Accounted g { s with queue := rest } heard (handled ++ [m]) := by
      refine ⟨?_, h.task, h.unborn⟩
      rw [List.append_assoc, List.singleton_append, ← hq]
      exact h.sent
    rw [hq]
    exact htaken.react (advances_handle s.client m)

theorem mem_setTask {t : ConnectionTask} {g' : ℕ} {task : Option ConnectionTask}
    (h : t ∈ (s.setTask g' task).tasks) :
    (t ∈ s.tasks ∧ t.generation ≠ g') ∨ some t = task := by
  obtain ⟨t', ht', h⟩ := List.mem_flatMap.mp h
  split at h
  case isTrue => exact .inr (Option.mem_toList.mp h).symm
  case isFalse hne =>
    obtain rfl := List.mem_singleton.mp h
    exact .inl ⟨ht', hne⟩

theorem Accounted.hear (h : Accounted g s heard handled) (hs : s.Sound) {t : ConnectionTask}
    (hfind : s.tasks.find? (·.generation == g) = some t) (p : PeerStep) :
    Accounted g (s.peerStep g p) (heard ++ [p]) handled := by
  have hmem := List.mem_of_find?_eq_some hfind
  have hgen : t.generation = g := by simpa using List.find?_some hfind
  have hafter : after (some ⟨g, false⟩) heard = some t := (h.task t hmem hgen).symm
  have hborn : ¬ s.client.generation < g := by
    rw [← (hs.generation_of_mem hmem).2, hgen]
    exact Nat.lt_irrefl g
  unfold System.peerStep
  rw [hfind]
  dsimp only
  cases ha : t.answer? p with
  | none =>
      have hhear : ConnectionTask.hear (some t) p = (none, some t) := by
        simp only [ConnectionTask.hear, Option.bind_some, ha]
      refine ⟨?_, fun t' ht' hg' => ?_, fun hlt => absurd hlt hborn⟩
      · rw [sends_concat, hafter, hhear, h.sent]
        exact (List.append_nil _).symm
      · rw [after_concat, hafter, hhear, h.task t' ht' hg', hafter]
  | some answer =>
      obtain ⟨m, task⟩ := answer
      have hhear : ConnectionTask.hear (some t) p = (some m, task) := by
        simp only [ConnectionTask.hear, Option.bind_some, ha]
      have hm : m.generation? = some g := by
        rcases answer?_cases ha with ⟨hend, -⟩ | ⟨hm, -⟩
        · rw [hend.generation, hgen]
        · rw [hm, hgen]
      refine ⟨?_, fun t' ht' hg' => ?_, fun hlt => absurd hlt hborn⟩
      · rw [sends_concat, hafter, hhear, ← h.sent]
        show ofGeneration g (handled ++ (s.queue ++ [m])) = _
        rw [← List.append_assoc, ofGeneration_append, ofGeneration_singleton_self hm]
        rfl
      · rw [after_concat, hafter, hhear]
        exact (mem_setTask ht').resolve_left fun hother => hother.2 hg'

theorem Accounted.peerStep_of_ne (h : Accounted g s heard handled) {g' : ℕ} (hg : g' ≠ g)
    (p : PeerStep) : Accounted g (s.peerStep g' p) heard handled := by
  unfold System.peerStep
  split
  · exact h
  · rename_i t hfind
    have hgen : t.generation = g' := by simpa using List.find?_some hfind
    split
    · exact h
    · rename_i m task ha
      have hset : Accounted g (s.setTask g' task) heard handled := by
        refine ⟨h.sent, fun t' ht' hg' => ?_, h.unborn⟩
        rcases mem_setTask ht' with ⟨hmem, -⟩ | rfl
        · exact h.task t' hmem hg'
        · rcases answer?_cases ha with ⟨-, hnone⟩ | ⟨-, -, reading, hsome⟩
          · cases hnone
          · obtain rfl := Option.some.inj hsome
            exact absurd (hgen.symm.trans hg') hg
      refine hset.enqueue fun hm => ?_
      rcases answer?_cases ha with ⟨hend, -⟩ | ⟨hm', -⟩
      · exact hg (hgen.symm.trans (Option.some.inj (hend.generation.symm.trans hm)))
      · exact hg (hgen.symm.trans (Option.some.inj (hm'.symm.trans hm)))

theorem Accounted.peerStep (h : Accounted g s heard handled) (hs : s.Sound) (g' : ℕ)
    (p : PeerStep) :
    Accounted g (s.peerStep g' p) (heard ++ heardIn g s (.peerStep g' p)) handled := by
  by_cases hg : g' = g
  · subst hg
    cases hfind : s.tasks.find? (·.generation == g') with
    | some t =>
        have hany : s.tasks.any (·.generation == g') = true :=
          List.any_eq_true.mpr ⟨t, List.mem_of_find?_eq_some hfind, by
            simpa using List.find?_some hfind⟩
        rw [heardIn, if_pos ⟨rfl, hany⟩]
        exact h.hear hs hfind p
    | none =>
        have hany : ¬ s.tasks.any (·.generation == g') = true := by
          rw [Bool.not_eq_true, List.any_eq_false]
          exact List.find?_eq_none.mp hfind
        have hsame : s.peerStep g' p = s := by
          unfold System.peerStep
          rw [hfind]
        rw [heardIn, if_neg fun hboth => hany hboth.2, List.append_nil, hsame]
        exact h
  · rw [heardIn, if_neg fun hboth => hg hboth.1, List.append_nil]
    exact h.peerStep_of_ne hg p

theorem Accounted.silent {s' : System} (h : Accounted g s' heard handled) {a : Action}
    (hheard : heardIn g s a = []) (hhandled : handledIn s a = []) :
    Accounted g s' (heard ++ heardIn g s a) (handled ++ handledIn s a) := by
  rw [hheard, hhandled, List.append_nil, List.append_nil]
  exact h

theorem Accounted.perform (h : Accounted g s heard handled) (hs : s.Sound) (a : Action) :
    Accounted g (s.perform a).1 (heard ++ heardIn g s a) (handled ++ handledIn s a) := by
  cases a with
  | start => exact (h.react (advances_start s.client)).silent rfl rfl
  | stop => exact (h.react (advances_stop s.client)).silent rfl rfl
  | reload entries =>
      exact (h.react (r := s.client.reload entries)
        ⟨Nat.le_refl _, opens_of_no_effects rfl⟩).silent rfl rfl
  | clear =>
      exact (h.react (r := s.client.clear) ⟨Nat.le_refl _, opens_of_no_effects rfl⟩).silent rfl rfl
  | echo e => exact (h.enqueue (m := .localEcho e) nofun).silent rfl rfl
  | handleNext =>
      rw [show heardIn g s .handleNext = [] from rfl, List.append_nil]
      exact h.handleNext
  | peerStep g' p =>
      rw [show handledIn s (.peerStep g' p) = [] from rfl, List.append_nil]
      exact h.peerStep hs g' p
  | fire n =>
      refine Accounted.silent (?_ : Accounted g (s.fire n) heard handled) rfl rfl
      unfold System.fire
      split
      · split
        · have hgone : Accounted g { s with timers := s.timers.filter (·.number != n) } heard
              handled := ⟨h.sent, h.task, h.unborn⟩
          exact hgone.enqueue (m := .reconnectDue) nofun
        · exact h
      · exact h
  | pass ms => exact (⟨h.sent, h.task, h.unborn⟩ : Accounted g (s.pass ms) _ _).silent rfl rfl

theorem accounted_run (g delay capacity : ℕ) (as : List Action) :
    let s := System.new delay capacity
    Accounted g (s.run as) (s.heard g as) (s.handled as) := by
  intro s
  induction as using List.reverseRecOn with
  | nil => exact ⟨rfl, nofun, fun _ => rfl⟩
  | append_singleton as a ih =>
      unfold System.heard System.handled
      rw [run_concat, collect_concat, collect_concat]
      exact ih.perform (sound_run delay capacity as) a

end accounted

/-! ### Sessions that are not stopped -/

section current

/-- The messages that are waiting come from the current connection, if they come from one. -/
def Current (s : System) : Prop :=
  ∀ m ∈ s.queue, ∀ g, m.generation? = some g → g = s.client.generation

variable {s : System}

theorem Current.generation?_eq_none (h : s.Current) (hs : s.Fresh) {m : Message}
    (hm : m ∈ s.queue) : m.generation? = none := by
  cases hg : m.generation? with
  | none => rfl
  | some g => exact absurd (h m hm g hg ▸ hg) (hs m hm)

/-- At most one message comes into the queue, from the current connection if from any. -/
theorem Current.of_queue {s' : System} (h : s.Current)
    (hgen : s'.client.generation = s.client.generation)
    (hqueue : s'.queue = s.queue ∨ ∃ m, s'.queue = s.queue ++ [m] ∧
      ∀ g, m.generation? = some g → g = s.client.generation) : s'.Current := by
  intro x hx
  rw [hgen]
  rcases hqueue with hq | ⟨m, hq, hm⟩ <;> rw [hq] at hx
  · exact h x hx
  · rcases List.mem_append.mp hx with hx | hx
    · exact h x hx
    · rw [List.mem_singleton.mp hx]
      exact hm

theorem generation_merge (c : Client) (e : Entry) (origin : Origin) :
    (c.merge e origin).client.generation = c.generation := by rw [c.client_merge e origin]

theorem generation_scheduleReconnect (c : Client) :
    c.scheduleReconnect.1.generation = c.generation := by
  unfold Client.scheduleReconnect
  split <;> rfl

/-- While a connection is held, messages begin no other generation. -/
theorem generation_handle {c : Client} (hc : c.state ≠ .disconnected) (m : Message) :
    (c.handle m).client.generation = c.generation := by
  cases m with
  | opened g =>
      simp only [Client.handle]
      split
      · rfl
      · exact generation_setState c .connected
  | payload g text =>
      simp only [Client.handle, Client.handlePayload]
      split
      · rfl
      · split
        · exact generation_merge c _ .stream
        · rfl
  | closed g reason =>
      simp only [Client.handle]
      split
      · rfl
      · exact (generation_scheduleReconnect _).trans (generation_setState _ .disconnected)
  | reconnectDue =>
      simp only [Client.handle]
      split
      · rw [connect_of_not_disconnected (c := { c with reconnect := none }) hc]
        rfl
      · rfl
  | localEcho e => exact generation_merge c e .localEcho

theorem Current.handleNext (h : s.Current) (hs : s.Sound) : Current s.handleNext.1 := by
  unfold System.handleNext
  split
  · exact h
  · rename_i m rest hq
    intro x hx g hg
    rw [queue_react] at hx
    have hmem : x ∈ s.queue := hq ▸ List.mem_cons_of_mem m hx
    rw [client_react]
    rcases hs.phase with hh | hw | hr
    · rw [generation_handle hh.not_disconnected]
      exact h x hmem g hg
    · rw [h.generation?_eq_none hw.fresh hmem] at hg
      cases hg
    · rw [h.generation?_eq_none hr.fresh hmem] at hg
      cases hg

theorem Current.start (h : s.Current) (hs : s.Sound) : Current (s.react s.client.start).1 := by
  by_cases hrun : s.client.running = true
  · rw [show s.client.start = s.client.idle from if_pos hrun]
    exact h
  · intro m hm g hg
    rw [queue_react] at hm
    have hstopped := Stopped.of_sound hs (by simpa using hrun)
    rw [h.generation?_eq_none hstopped.fresh hm] at hg
    cases hg

theorem Current.perform (h : s.Current) (hs : s.Sound) {a : Action} (ha : a ≠ .stop) :
    Current (s.perform a).1 := by
  cases a with
  | start => exact h.start hs
  | stop => exact absurd rfl ha
  | reload entries => exact h
  | clear => exact h
  | echo e => exact h.of_queue rfl (.inr ⟨_, rfl, nofun⟩)
  | handleNext => exact h.handleNext hs
  | peerStep g p =>
      refine h.of_queue (congrArg Client.generation (client_peerStep s g p)) ?_
      refine (s.queue_peerStep g p).imp_right fun ⟨t, ht, m, hm, hq⟩ => ⟨m, hq, fun g' hg' => ?_⟩
      rw [← (hs.generation_of_mem ht).2]
      exact Option.some.inj (hg'.symm.trans hm)
  | fire n =>
      refine h.of_queue (congrArg Client.generation (client_fire s n)) ?_
      exact (s.queue_fire n).imp_right fun hq => ⟨.reconnectDue, hq, nofun⟩
  | pass ms => exact h

theorem current_run (delay capacity : ℕ) {as : List Action} (has : .stop ∉ as) :
    ((System.new delay capacity).run as).Current := by
  induction as using List.reverseRecOn with
  | nil => exact nofun
  | append_singleton as a ih =>
      rw [List.mem_append, not_or, List.mem_singleton] at has
      rw [run_concat]
      exact (ih has.1).perform (sound_run delay capacity as) (Ne.symm has.2)

/-- What the client handles of a generation it reads. -/
theorem Current.readIn_eq (h : s.Current) (g : ℕ) (a : Action) :
    readIn g s a = (handledIn s a).filterMap (payload? g) := by
  unfold readIn
  split
  case isTrue => rfl
  case isFalse hne =>
    symm
    rw [List.filterMap_eq_nil_iff]
    intro m hm
    have hmem : m ∈ s.queue := by
      cases a with
      | handleNext => exact List.mem_of_mem_head? (Option.mem_toList.mp hm)
      | _ => cases hm
    cases m with
    | payload g' text => exact if_neg fun hg : g' = g => hne ((h _ hmem g' rfl).symm.trans hg)
    | _ => rfl

theorem read_eq (delay capacity g : ℕ) {as : List Action} (has : .stop ∉ as) :
    let s := System.new delay capacity
    s.read g as = (s.handled as).filterMap (payload? g) := by
  intro s
  induction as using List.reverseRecOn with
  | nil => rfl
  | append_singleton as a ih =>
      rw [List.mem_append, not_or] at has
      unfold System.read System.handled
      rw [collect_concat, collect_concat, List.filterMap_append,
        (current_run delay capacity has.1).readIn_eq]
      exact congrArg (· ++ _) (ih has.1)

end current

/-! ### Texts once and in order -/

section texts

/-- What the task of a connection sends, told from the frames: if the connection opens, that it is
open, every text before the first frame that closes or failure, and then the end. -/
def transcript (g : ℕ) : Except ConnectionError (List SocketItem) → List Message
  | .error e => [.closed g e.message]
  | .ok items => .opened g :: ((texts items).map (.payload g) ++ [.closed g (reason items)])

def streamTexts : Except ConnectionError (List SocketItem) → List String
  | .error _ => []
  | .ok items => texts items

variable {g : ℕ}

theorem runConnection_eq (g : ℕ) (connection : Except ConnectionError (List SocketItem)) :
    runConnection g connection = transcript g connection := by
  cases connection with
  | error e => rfl
  | ok items => rw [runConnection, forward_eq, transcript]

/-- Before its end, a connection sends that it is open and its texts. -/
theorem exists_transcript (g : ℕ) (connection : Except ConnectionError (List SocketItem)) :
    ∃ before reason, transcript g connection = before ++ [.closed g reason] ∧
      (∀ m ∈ before, ¬ m.Ends g) ∧
      before.filterMap (payload? g) = streamTexts connection := by
  cases connection with
  | error e => exact ⟨[], e.message, rfl, nofun, rfl⟩
  | ok items =>
      refine ⟨.opened g :: (texts items).map (.payload g), reason items, rfl, ?_, ?_⟩
      · simp [Message.Ends]
      · have hsome : payload? g ∘ Message.payload g = some := by
          funext text
          exact if_pos rfl
        rw [List.filterMap_cons]
        show ((texts items).map (Message.payload g)).filterMap (payload? g) = texts items
        rw [List.filterMap_map, hsome, List.filterMap_some]

/-- **Texts are handled once and in order.**  Whatever happens in a session, let the peer of the
connection of a generation do what belongs to a socket, as far as the task hears it.  The task
sends the transcript of the frames from its beginning, and all of it once it has heard of the end;
the loops of the task send this transcript, and a binary frame has a text exactly if it holds the
bytes of that text.  If the session is not stopped, the client reads the texts of the connection
one by one, and has read all of them when it handles the end. -/
theorem stream_texts_once (delay capacity g : ℕ)
    (connection : Except ConnectionError (List SocketItem)) (as : List Action)
    (hpeer : (System.new delay capacity).heard g as <+: script connection) :
    let s := System.new delay capacity
    let sent := ofGeneration g (s.handled as ++ (s.run as).queue)
    runConnection g connection = transcript g connection ∧
    (∀ bytes text, (StreamFrame.binary bytes).text? = some text ↔ Utf8.bytes text = bytes) ∧
    sent <+: transcript g connection ∧
    ((∃ p ∈ s.heard g as, p.isEnd) → sent = transcript g connection) ∧
    (.stop ∉ as → s.read g as <+: streamTexts connection ∧
      ((∃ m ∈ s.handled as, m.Ends g) → s.read g as = streamTexts connection)) := by
  intro s sent
  have hsent : sent = sends (some ⟨g, false⟩) (s.heard g as) :=
    (accounted_run g delay capacity as).sent
  have hscript := (sends_script g connection).trans (runConnection_eq g connection)
  have hprefix : sent <+: transcript g connection := by
    rw [hsent, ← hscript]
    exact sends_prefix hpeer
  obtain ⟨before, reason, htranscript, hbefore, htexts⟩ := exists_transcript g connection
  -- the end comes last, so that a beginning with the end is everything
  have hwhole {ms : List Message} (h : ms <+: transcript g connection) (hend : ∃ m ∈ ms, m.Ends g) :
      ms = transcript g connection := by
    obtain ⟨m, hm, hend⟩ := hend
    rw [htranscript] at h ⊢
    refine (List.prefix_concat_iff.mp h).resolve_right fun hpart => ?_
    exact hbefore m (hpart.subset hm) hend
  refine ⟨runConnection_eq g connection, fun bytes text => Utf8.text?_eq_some_iff, hprefix,
    fun ⟨p, hp, hend⟩ => hwhole hprefix ?_, fun hstop => ?_⟩
  · rw [hsent]
    exact exists_ends_of_script hpeer hp hend
  · have hhandled : ofGeneration g (s.handled as) <+: transcript g connection := by
      refine List.IsPrefix.trans ?_ hprefix
      rw [show sent = _ from ofGeneration_append g _ _]
      exact List.prefix_append _ _
    have hread : s.read g as = (ofGeneration g (s.handled as)).filterMap (payload? g) := by
      rw [filterMap_ofGeneration]
      exact read_eq delay capacity g hstop
    have hall : (transcript g connection).filterMap (payload? g) = streamTexts connection := by
      rw [htranscript, List.filterMap_append, htexts]
      exact List.append_nil _
    rw [hread, ← hall]
    refine ⟨hhandled.filterMap _, fun ⟨m, hm, hend⟩ => ?_⟩
    rw [hwhole hhandled ⟨m, List.mem_filter.mpr ⟨hm, by simpa using hend.generation⟩, hend⟩]

/-- Two texts between frames that are passed over, and one behind the closing frame. -/
theorem stream_texts_once_binary :
    let items : List SocketItem := [.frame (.text "a"), .frame (.binary [0xFF]),
      .frame (.ping "p"), .frame (.binary [0xC3, 0xA9]), .frame .close, .frame (.text "late")]
    let as : List Action := [.start, .peerStep 1 .accept, .peerStep 1 (.text "a"), .handleNext,
      .peerStep 1 (.text "é"), .clear, .handleNext, .peerStep 1 .finish, .handleNext,
      .peerStep 1 (.text "late"), .handleNext, .pass 10, .fire 0, .handleNext]
    let s := System.new 10 3
    s.heard 1 as <+: script (.ok items) ∧ .stop ∉ as ∧
      ofGeneration 1 (s.handled as ++ (s.run as).queue) =
        [.opened 1, .payload 1 "a", .payload 1 "é", .closed 1 "stream ended"] ∧
      s.read 1 as = ["a", "é"] := by
  intro items as s
  have hpeer : s.heard 1 as <+: script (.ok items) := by decide +kernel
  have hstop : Action.stop ∉ as := by simp [as]
  obtain ⟨-, -, -, hsent, hread⟩ := stream_texts_once 10 3 1 (.ok items) as hpeer
  refine ⟨hpeer, hstop, (hsent ?_).trans ?_, ((hread hstop).2 ?_).trans ?_⟩
  · exact ⟨.finish, by decide +kernel, rfl⟩
  · decide +kernel
  · exact ⟨.closed 1 "stream ended", by decide +kernel, "stream ended", rfl⟩
  · decide +kernel

end texts

end System
end PenPlotter
