import Mathlib.Data.List.Induction
import PenPlotter.Proofs.Session.Lifecycle
import PenPlotter.Proofs.Session.Operations

/-! # Messages in any order

Messages can be put into a session from outside, repeated and in any order.  A client is `Steady`
if it holds a connection whenever its stream is not disconnected, and waits for a reconnect
message that will open one whenever it runs without a connection.

A run keeps a client steady exactly as long as no connection of the current generation is
reported open while none is held (`steady_run_iff`).  Such a report is possible since a generation
stays current when its connection has ended: the stream then counts as connected, and the next
reconnect message is used up without opening a connection. -/

namespace PenPlotter
namespace Client

/-- The client holds a connection, or will open one. -/
structure Steady (c : Client) : Prop where
  held : c.state ≠ .disconnected → c.connection.isSome
  retried : c.running = true → c.connection.isSome ∨
    (c.reconnect.isSome ∧
      (c.handle .reconnectDue).effects = [.openConnection (c.generation + 1)] ∧
      (c.handle .reconnectDue).client.connection = some (c.generation + 1))

/-- The operation reports that a connection is open while none is held. -/
def Misreports (c : Client) (o : Operation) : Prop :=
  o = .handle (.opened c.generation) ∧ c.connection = none

/-- A connection is held while it is being opened, and none while the stream is disconnected. -/
structure Linked (c : Client) : Prop where
  disconnected : c.state = .disconnected → c.connection = none
  connecting : c.state = .connecting → c.connection.isSome

/-- What holds after every run, whatever messages it handles. -/
structure Coherent (c : Client) : Prop extends c.Linked where
  retrying : c.state = .disconnected → c.running = true → c.reconnect.isSome

variable {c : Client}

/-! ### What the operations do to the connection -/

section operations

theorem exists_log_merge (c : Client) (e : Entry) (origin : Origin) :
    ∃ log, (c.merge e origin).client = { c with log } :=
  ⟨_, c.client_merge e origin⟩

theorem exists_log_handlePayload (c : Client) (text : String) :
    ∃ log, (c.handlePayload text).client = { c with log } := by
  unfold handlePayload
  split
  · exact c.exists_log_merge _ _
  · exact ⟨c.log, rfl⟩

theorem client_handle_opened (c : Client) :
    (c.handle (.opened c.generation)).client = { c with state := .connected } := by
  simp only [handle, ne_eq, not_true_eq_false, if_false, setState]
  split_ifs with hs
  · rw [← hs]
  · rfl

/-- A connection that has ended is let go, and a client that runs waits for the next one. -/
theorem client_handle_closed (c : Client) (reason : String) :
    let c' := (c.handle (.closed c.generation reason)).client
    c'.state = .disconnected ∧ c'.connection = none ∧ (c'.running = true → c'.reconnect.isSome) := by
  simp only [handle, ne_eq, not_true_eq_false, if_false, setState, scheduleReconnect]
  cases c.running <;> cases hr : c.reconnect <;> split_ifs <;> simp_all

/-- What handling a message can do to a client: it changes the log alone, the stream counts as
connected, the connection has ended, or a reconnect message opens a connection or is used up. -/
theorem client_handle_cases (c : Client) (m : Message) :
    let c' := (c.handle m).client
    (∃ log, c' = { c with log }) ∨
    (m = .opened c.generation ∧ c' = { c with state := .connected }) ∨
    (c'.state = .disconnected ∧ c'.connection = none ∧
      (c'.running = true → c'.reconnect.isSome)) ∨
    (c.running = true ∧ c' = (connect { c with reconnect := none }).client) ∨
    (c.running = false ∧ c' = { c with reconnect := none }) := by
  by_cases hstale : ∃ g, m.generation? = some g ∧ g ≠ c.generation
  · obtain ⟨g, hm, hg⟩ := hstale
    rw [System.handle_of_stale hm hg]
    exact Or.inl ⟨c.log, rfl⟩
  have hcurrent : ∀ g, m.generation? = some g → g = c.generation :=
    fun g hm => not_not.mp fun hg => hstale ⟨g, hm, hg⟩
  cases m with
  | opened g =>
      obtain rfl := hcurrent g rfl
      exact Or.inr (Or.inl ⟨rfl, c.client_handle_opened⟩)
  | payload g text =>
      obtain rfl := hcurrent g rfl
      left
      rw [show c.handle (.payload c.generation text) = c.handlePayload text from
        if_neg (not_not.mpr rfl)]
      exact c.exists_log_handlePayload text
  | closed g reason =>
      obtain rfl := hcurrent g rfl
      exact Or.inr (Or.inr (Or.inl (c.client_handle_closed reason)))
  | reconnectDue =>
      rcases Bool.eq_false_or_eq_true c.running with hr | hr
      · rw [System.handle_reconnectDue_of_running hr]
        exact Or.inr (Or.inr (Or.inr (Or.inl ⟨hr, rfl⟩)))
      · rw [System.handle_reconnectDue_of_stopped hr]
        exact Or.inr (Or.inr (Or.inr (Or.inr ⟨hr, rfl⟩)))
  | localEcho e => exact Or.inl (c.exists_log_merge e .localEcho)

theorem stop_cases (c : Client) : c.stop.client = c ∨ c.stop.client = System.halted c := by
  unfold stop
  split_ifs with h
  · exact Or.inl rfl
  · right
    unfold setState System.halted
    by_cases hs : c.state = .disconnected <;> simp [hs]

/-- Connecting leaves a connection behind, unless the stream counts as connected. -/
theorem Linked.connect (h : c.Linked) : c.connect.client.Coherent := by
  by_cases hs : c.state = .disconnected
  · rw [System.connect_of_disconnected hs (h.disconnected hs)]
    exact ⟨⟨nofun, fun _ => rfl⟩, nofun⟩
  · rw [System.connect_of_not_disconnected hs]
    exact ⟨h, fun e => absurd e hs⟩

end operations

/-! ### All runs -/

section runs

theorem Coherent.start (h : c.Coherent) : c.start.client.Coherent := by
  unfold Client.start
  split
  · exact h
  · exact Linked.connect (c := { c with running := true }) ⟨h.disconnected, h.connecting⟩

theorem Coherent.stop (h : c.Coherent) : c.stop.client.Coherent := by
  rcases c.stop_cases with hc | hc <;> rw [hc]
  · exact h
  · exact ⟨⟨fun _ => rfl, nofun⟩, nofun⟩

theorem Coherent.relog (h : c.Coherent) (log : SessionLog) : Coherent { c with log } :=
  ⟨⟨h.disconnected, h.connecting⟩, h.retrying⟩

theorem Coherent.handle (h : c.Coherent) (m : Message) : (c.handle m).client.Coherent := by
  rcases c.client_handle_cases m with
    ⟨log, hc⟩ | ⟨_, hc⟩ | ⟨hs, hconn, hr⟩ | ⟨_, hc⟩ | ⟨hr, hc⟩
  · rw [hc]
    exact h.relog log
  · rw [hc]
    exact ⟨⟨nofun, nofun⟩, nofun⟩
  · exact ⟨⟨fun _ => hconn, fun e => by rw [hs] at e; cases e⟩, fun _ => hr⟩
  · rw [hc]
    exact Linked.connect (c := { c with reconnect := none }) ⟨h.disconnected, h.connecting⟩
  · rw [hc]
    exact ⟨⟨h.disconnected, h.connecting⟩, fun _ e => absurd (hr.symm.trans e) nofun⟩

theorem Coherent.perform (h : c.Coherent) (o : Operation) : (c.perform o).client.Coherent := by
  cases o with
  | start => exact h.start
  | stop => exact h.stop
  | reload entries => exact h.relog _
  | clear => exact h.relog _
  | handle m => exact h.handle m

theorem coherent_run (delay capacity : Nat) (ops : List Operation) :
    ((new delay capacity).run ops).Coherent :=
  run_induction (P := fun c _ => c.Coherent) (fun _ _ o _ h => h.perform o) _ []
    ⟨⟨fun _ => rfl, nofun⟩, nofun⟩

end runs

/-! ### Connections that are reported open but not held -/

section misreports

/-- In a coherent client the connection decides: a running client without one is disconnected
and waits for the message that opens the next. -/
theorem Coherent.steady_iff (h : c.Coherent) :
    c.Steady ↔ (c.state ≠ .disconnected → c.connection.isSome) := by
  refine ⟨Steady.held, fun hheld => ⟨hheld, fun hr => ?_⟩⟩
  cases hc : c.connection with
  | some g => exact Or.inl rfl
  | none =>
      have hs : c.state = .disconnected := by
        by_contra hs
        simpa [hc] using hheld hs
      refine Or.inr ⟨h.retrying hs hr, ?_⟩
      rw [System.handle_reconnectDue_of_running hr,
        System.connect_of_disconnected (c := { c with reconnect := none }) hs hc]
      exact ⟨rfl, rfl⟩

theorem Steady.of_same {c' : Client} (hs : c.Steady) (h : c'.Coherent) (hstate : c'.state = c.state)
    (hconn : c'.connection = c.connection) : c'.Steady := by
  rw [h.steady_iff, hstate, hconn]
  exact hs.held

theorem Linked.steady_connect (h : c.Linked)
    (hheld : c.state ≠ .disconnected → c.connection.isSome) : c.connect.client.Steady := by
  refine h.connect.steady_iff.mpr fun _ => ?_
  by_cases hs : c.state = .disconnected
  · rw [System.connect_of_disconnected hs (h.disconnected hs)]
    rfl
  · rw [System.connect_of_not_disconnected hs]
    exact hheld hs

theorem Coherent.steady_opened_iff (h : c.Coherent) :
    (c.handle (.opened c.generation)).client.Steady ↔ c.connection.isSome := by
  have hcoherent := h.handle (.opened c.generation)
  rw [client_handle_opened] at hcoherent ⊢
  rw [hcoherent.steady_iff]
  exact ⟨fun hheld => hheld nofun, fun hc _ => hc⟩

theorem Steady.handle (hs : c.Steady) (h : c.Coherent) {m : Message}
    (hm : m ≠ .opened c.generation) : (c.handle m).client.Steady := by
  have hcoherent := h.handle m
  rcases c.client_handle_cases m with
    ⟨log, hc⟩ | ⟨ho, _⟩ | ⟨hd, _⟩ | ⟨_, hc⟩ | ⟨_, hc⟩
  · exact hs.of_same hcoherent (by rw [hc]) (by rw [hc])
  · exact absurd ho hm
  · exact hcoherent.steady_iff.mpr fun hne => absurd hd hne
  · rw [hc]
    exact Linked.steady_connect (c := { c with reconnect := none })
      ⟨h.disconnected, h.connecting⟩ hs.held
  · exact hs.of_same hcoherent (by rw [hc]) (by rw [hc])

/-- The report that a connection is open, when none is held, is the one operation that makes a
client unsteady. -/
theorem Steady.perform_iff (hs : c.Steady) (h : c.Coherent) (o : Operation) :
    (c.perform o).client.Steady ↔ ¬ c.Misreports o := by
  -- Any other operation is no such report and keeps the client steady.
  have hother : (c.perform o).client.Steady → o ≠ .handle (.opened c.generation) →
      ((c.perform o).client.Steady ↔ ¬ c.Misreports o) :=
    fun hsteady hne => ⟨fun _ hm => hne hm.1, fun _ => hsteady⟩
  cases o with
  | start =>
      refine hother ?_ nofun
      show c.start.client.Steady
      unfold Client.start
      split
      · exact hs
      · exact Linked.steady_connect (c := { c with running := true })
          ⟨h.disconnected, h.connecting⟩ hs.held
  | stop =>
      refine hother ?_ nofun
      show c.stop.client.Steady
      have hstop := h.stop
      rcases c.stop_cases with hc | hc <;> rw [hc] at hstop ⊢
      · exact hs
      · exact hstop.steady_iff.mpr fun hd => absurd rfl hd
  | reload entries => exact hother (hs.of_same (h.relog _) rfl rfl) nofun
  | clear => exact hother (hs.of_same (h.relog _) rfl rfl) nofun
  | handle m =>
      by_cases hm : m = .opened c.generation
      · subst hm
        refine h.steady_opened_iff.trans ?_
        rw [Option.isSome_iff_ne_none]
        exact ⟨fun hc hmis => hc hmis.2, fun hmis hc => hmis ⟨rfl, hc⟩⟩
      · exact hother (hs.handle h hm) fun e => hm (Operation.handle.inj e)

theorem steady_new (delay capacity : Nat) : (new delay capacity).Steady :=
  ⟨fun hs => absurd rfl hs, nofun⟩

/-- **A session is steady as long as no connection is reported open that is not held.**  For every
sequence of operations, with any messages in any order, the client is steady after each of them if
and only if none of them reports the current generation open while no connection is held. -/
theorem steady_run_iff (delay capacity : Nat) (ops : List Operation) :
    (∀ before, before <+: ops → ((new delay capacity).run before).Steady) ↔
      ∀ before o, before ++ [o] <+: ops → ¬ ((new delay capacity).run before).Misreports o := by
  constructor
  · intro hsteady before o ho
    have hnext := hsteady _ ho
    rw [run_concat] at hnext
    exact ((hsteady before ((List.prefix_append before [o]).trans ho)).perform_iff
      (coherent_run delay capacity before) o).mp hnext
  · -- By induction on the operations from the end, since prefixes grow there.
    intro hnone before
    induction before using List.reverseRecOn with
    | nil => exact fun _ => steady_new delay capacity
    | append_singleton before o ih =>
        intro ho
        rw [run_concat]
        exact ((ih ((List.prefix_append before [o]).trans ho)).perform_iff
          (coherent_run delay capacity before) o).mpr (hnone before o ho)

/-- A connection that has ended is reported open, and the reconnect message is used up: the
session runs and counts as connected, without a connection and without a pending reconnect. -/
theorem stranded_by_late_opened :
    let c := (new defaultReconnectDelay defaultCapacity).run
      [.start, .handle (.closed 1 ""), .handle (.opened 1), .handle .reconnectDue]
    c.running = true ∧ c.state = .connected ∧ c.connection = none ∧ c.reconnect = none := by
  decide

end misreports

end Client
end PenPlotter
