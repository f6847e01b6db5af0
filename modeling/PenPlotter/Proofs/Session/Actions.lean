import Mathlib.Logic.Basic
import Mathlib.Tactic.SplitIfs
import PenPlotter.Session.System

/-! # Runs of a session with its connections and timers

`System.Action` lists everything that can happen in a closed session: the owner of the client
calls it or echoes an entry, the client handles the next message, a connection task takes a
step, a timer runs out, or the clock goes on.  `System.run` is the session after a list of
actions, in any order. -/

namespace PenPlotter

/-- The generation of the connection that a message comes from. -/
def Message.generation? : Message → Option Nat
  | .opened g => some g
  | .payload g _ => some g
  | .closed g _ => some g
  | .reconnectDue => none
  | .localEcho _ => none

def Message.Ends (g : Nat) (m : Message) : Prop := ∃ reason, m = .closed g reason

theorem Message.Ends.generation {g : Nat} {m : Message} (h : m.Ends g) : m.generation? = some g := by
  obtain ⟨reason, rfl⟩ := h
  rfl

def Effect.opened? : Effect → Option Nat
  | .openConnection generation => some generation
  | _ => none

namespace System

/-- What can happen in a closed session. -/
inductive Action where
  | start
  | stop
  | reload (entries : List Entry)
  | clear
  /-- An entry is put into the queue as a local echo. -/
  | echo (entry : Entry)
  /-- The client handles the next message. -/
  | handleNext
  /-- The task of a connection takes a step, in answer to its peer. -/
  | peerStep (generation : Nat) (p : PeerStep)
  /-- A timer runs out. -/
  | fire (number : Nat)
  | pass (ms : Nat)
deriving Repr, Inhabited

/-- The session after an action, and the event that the client returns. -/
def perform (s : System) : Action → System × Option SessionEvent
  | .start => s.react s.client.start
  | .stop => s.react s.client.stop
  | .reload entries => s.react (s.client.reload entries)
  | .clear => s.react s.client.clear
  | .echo entry => (s.enqueue (.localEcho entry), none)
  | .handleNext => s.handleNext
  | .peerStep generation p => (s.peerStep generation p, none)
  | .fire number => (s.fire number, none)
  | .pass ms => (s.pass ms, none)

/-- The session after a list of actions. -/
def run (s : System) : List Action → System
  | [] => s
  | a :: as => (s.perform a).1.run as

/-- What every action keeps holds after every run. -/
theorem run_invariant {P : System → Prop} (step : ∀ s a, P s → P (s.perform a).1) {s : System}
    (h : P s) (as : List Action) : P (s.run as) := by
  induction as generalizing s with
  | nil => exact h
  | cons a as ih => exact ih (step s a h)

/-! ### Reactions -/

section reactions

variable {s : System} {r : Reaction}

/-- A reaction that touches neither connections nor timers. -/
theorem react_of_no_effects (h : r.effects = []) : (s.react r).1 = { s with client := r.client } := by
  unfold react
  rw [h]
  rfl

theorem react_of_effect {e : Effect} (h : r.effects = [e]) :
    (s.react r).1 = carryOut { s with client := r.client } e := by
  unfold react
  rw [h]
  rfl

end reactions

/-! ### Steps of a connection task -/

section tasks

/-- A task that goes on sends no end, and one that ends sends nothing else. -/
theorem answer?_cases {t : ConnectionTask} {p : PeerStep} {m : Message}
    {task : Option ConnectionTask} (h : t.answer? p = some (m, task)) :
    (m.Ends t.generation ∧ task = none) ∨
    (m.generation? = some t.generation ∧ ¬ m.Ends t.generation ∧
      ∃ reading, task = some ⟨t.generation, reading⟩) := by
  -- In the order of the constructors: refuse, accept, text, fail, finish.
  cases p <;> simp only [ConnectionTask.answer?] at h <;> split_ifs at h <;>
    obtain ⟨rfl, rfl⟩ := Prod.mk.inj (Option.some.inj h)
  · exact Or.inl ⟨⟨_, rfl⟩, rfl⟩
  · exact Or.inr ⟨rfl, by simp [Message.Ends], true, rfl⟩
  · exact Or.inr ⟨rfl, by simp [Message.Ends], t.reading, rfl⟩
  · exact Or.inl ⟨⟨_, rfl⟩, rfl⟩
  · exact Or.inl ⟨⟨_, rfl⟩, rfl⟩

theorem peerStep_of_no_tasks {s : System} (h : s.tasks = []) (g : Nat) (p : PeerStep) :
    s.peerStep g p = s := by
  unfold peerStep
  rw [h]
  rfl

/-- A step of the only task: nothing, a message after which the task goes on, or its end. -/
theorem peerStep_of_single {s : System} {t : ConnectionTask} (h : s.tasks = [t]) (g : Nat)
    (p : PeerStep) :
    s.peerStep g p = s ∨
    (∃ m, m.Ends t.generation ∧ s.peerStep g p = { s with tasks := [], queue := s.queue ++ [m] }) ∨
    (∃ m reading, m.generation? = some t.generation ∧ ¬ m.Ends t.generation ∧
      s.peerStep g p =
        { s with tasks := [⟨t.generation, reading⟩], queue := s.queue ++ [m] }) := by
  unfold peerStep
  rw [h]
  by_cases hg : t.generation = g
  · subst hg
    simp only [List.find?_cons, beq_self_eq_true]
    cases ha : t.answer? p with
    | none => exact Or.inl rfl
    | some answer =>
        obtain ⟨m, task⟩ := answer
        rcases answer?_cases ha with ⟨he, rfl⟩ | ⟨hm, hne, reading, rfl⟩
        · refine Or.inr (Or.inl ⟨m, he, ?_⟩)
          simp [setTask, enqueue, h]
        · refine Or.inr (Or.inr ⟨m, reading, hm, hne, ?_⟩)
          simp [setTask, enqueue, h]
  · left
    have hb : (t.generation == g) = false := by simpa using hg
    simp only [List.find?_cons, hb, List.find?_nil]

end tasks

end System
end PenPlotter
