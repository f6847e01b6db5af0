import PenPlotter.Proofs.Session.Log
import PenPlotter.Session.Client

/-! # Runs of a client

`Operation` lists what can be done to a client, and `Client.run` is the client after a list of
operations.  `Client.delivery?` is the entry that a message brings to a client: the entry of a
local echo, or the entry of a well-formed message of the current connection.  With
`Client.arrivals` a run is looked at together with the entries that it has delivered since the
log was last cleared or replaced.

For the log an operation is one of four things (`log_perform_cases`): it merges the entry that
is delivered, clears, replaces, or does nothing.  `run_induction` is the induction that all
statements about runs go by. -/

namespace PenPlotter

/-- What can be done to a client. -/
inductive Operation where
  | start
  | stop
  | reload (entries : List Entry)
  | clear
  | handle (m : Message)
deriving Repr, Inhabited

namespace Client

/-- The reaction of a client to an operation. -/
def perform (c : Client) : Operation → Reaction
  | .start => c.start
  | .stop => c.stop
  | .reload entries => c.reload entries
  | .clear => c.clear
  | .handle m => c.handle m

/-- The client after a list of operations. -/
def run (c : Client) : List Operation → Client
  | [] => c
  | o :: ops => (c.perform o).client.run ops

/-- The entry that a message brings to a client, and the way it came. -/
def delivery? (c : Client) : Message → Option (Entry × Origin)
  | .payload generation text =>
    if generation = c.generation then
      match StreamMessage.read text with
      | .ok (some entry) => some (entry, .stream)
      | _ => none
    else none
  | .localEcho entry => some (entry, .localEcho)
  | _ => none

/-- The entries delivered since the log was last cleared or replaced, when these were `es`
before the operation. -/
def arrived (c : Client) (es : List Entry) : Operation → List Entry
  | .clear => []
  | .reload _ => []
  | .handle m => es ++ ((c.delivery? m).map Prod.fst).toList
  | _ => es

/-- The entries delivered since the log was last cleared or replaced, after a run. -/
def arrivals (c : Client) (es : List Entry) : List Operation → List Entry
  | [] => es
  | o :: ops => (c.perform o).client.arrivals (c.arrived es o) ops

theorem run_concat (c : Client) (ops : List Operation) (o : Operation) :
    c.run (ops ++ [o]) = ((c.run ops).perform o).client := by
  induction ops generalizing c with
  | nil => rfl
  | cons o' ops ih => exact ih _

/-- What every operation of a run keeps holds after the run. -/
theorem run_induction {P : Client → List Entry → Prop} {ops : List Operation}
    (step : ∀ c es, ∀ o ∈ ops, P c es → P (c.perform o).client (c.arrived es o))
    (c : Client) (es : List Entry) (h : P c es) : P (c.run ops) (c.arrivals es ops) := by
  induction ops generalizing c es with
  | nil => exact h
  | cons o ops ih =>
      exact ih (fun c es o' ho => step c es o' (List.mem_cons_of_mem o ho)) _ _
        (step c es o List.mem_cons_self h)

/-! ### What an operation does to the log -/

section log

variable (c : Client)

@[simp] theorem log_setState (state : StreamState) : (c.setState state).1.log = c.log := by
  unfold setState
  split <;> rfl

@[simp] theorem log_scheduleReconnect : c.scheduleReconnect.1.log = c.log := by
  unfold scheduleReconnect
  split <;> rfl

@[simp] theorem log_connect : c.connect.client.log = c.log := by
  unfold connect
  split
  · rfl
  · exact log_setState _ _

theorem log_start : c.start.client.log = c.log := by
  unfold start
  split
  · rfl
  · exact log_connect _

theorem log_stop : c.stop.client.log = c.log := by
  unfold stop
  split
  · rfl
  · exact log_setState _ _

theorem client_merge (e : Entry) (origin : Origin) :
    (c.merge e origin).client = { c with log := (c.log.merge e).1 } := by
  unfold merge
  rcases h : c.log.merge e with ⟨l, _ | _⟩
  · have hl : (c.log.merge e).1 = c.log := by
      unfold SessionLog.merge at h ⊢
      split at h
      · rfl
      · simp at h
    rw [h] at hl
    subst hl
    rfl
  · rfl

variable {c}

theorem handle_of_delivery {m : Message} {e : Entry} {origin : Origin}
    (h : c.delivery? m = some (e, origin)) : c.handle m = c.merge e origin := by
  cases m with
  | payload g text =>
      simp only [delivery?] at h
      split_ifs at h with hg
      simp only [handle, if_neg (not_not.mpr hg), handlePayload]
      rcases hr : StreamMessage.read text with fault | entry | entry
      · simp [hr] at h
      · simp [hr] at h
      · rw [hr] at h
        obtain ⟨rfl, rfl⟩ := Prod.mk.inj (Option.some.inj h)
        rfl
  | localEcho entry =>
      obtain ⟨rfl, rfl⟩ := Prod.mk.inj (Option.some.inj h)
      rfl
  | opened g => simp [delivery?] at h
  | closed g reason => simp [delivery?] at h
  | reconnectDue => simp [delivery?] at h

theorem log_handle_of_no_delivery {m : Message} (h : c.delivery? m = none) :
    (c.handle m).client.log = c.log := by
  cases m with
  | opened g =>
      simp only [handle]
      split
      · rfl
      · exact log_setState _ _
  | payload g text =>
      simp only [handle]
      split
      · rfl
      · rename_i hg
        unfold handlePayload
        split
        · rename_i e hr
          simp [delivery?, not_not.mp hg, hr] at h
        · rfl
  | closed g reason =>
      simp only [handle]
      split
      · rfl
      · rw [log_scheduleReconnect, log_setState]
  | reconnectDue =>
      simp only [handle]
      split
      · rw [log_connect]
      · rfl
  | localEcho entry => simp [delivery?] at h

/-- An operation leaves the log alone, merges the entry that is delivered, clears the log or
replaces it. -/
theorem log_perform_cases (c : Client) (es : List Entry) (o : Operation) :
    ((c.perform o).client.log = c.log ∧ c.arrived es o = es) ∨
    (∃ e, (c.perform o).client.log = (c.log.merge e).1 ∧ c.arrived es o = es ++ [e]) ∨
    (o = .clear ∧ (c.perform o).client.log = c.log.clear ∧ c.arrived es o = []) ∨
    (∃ entries, o = .reload entries ∧ (c.perform o).client.log = c.log.replace entries ∧
      c.arrived es o = []) := by
  cases o with
  | start => exact Or.inl ⟨c.log_start, rfl⟩
  | stop => exact Or.inl ⟨c.log_stop, rfl⟩
  | reload entries => exact Or.inr (Or.inr (Or.inr ⟨entries, rfl, rfl, rfl⟩))
  | clear => exact Or.inr (Or.inr (Or.inl ⟨rfl, rfl, rfl⟩))
  | handle m =>
      cases h : c.delivery? m with
      | none =>
          refine Or.inl ⟨log_handle_of_no_delivery h, ?_⟩
          simp [arrived, h]
      | some d =>
          refine Or.inr (Or.inl ⟨d.1, ?_, ?_⟩)
          · show (c.handle m).client.log = _
            rw [handle_of_delivery h, client_merge]
          · simp [arrived, h]

/-- After every run the log remembers keys of its own entries only. -/
theorem rooted_run (ops : List Operation) (h : c.log.Rooted) : (c.run ops).log.Rooted := by
  refine run_induction (P := fun c _ => c.log.Rooted) ?_ c [] h
  intro c es o _ hc
  rcases c.log_perform_cases es o with ⟨hl, _⟩ | ⟨e, hl, _⟩ | ⟨_, hl, _⟩ | ⟨entries, _, hl, _⟩ <;>
    rw [hl]
  · exact hc
  · exact hc.merge e
  · exact hc.clear
  · exact hc.replace entries

theorem capacity_run (ops : List Operation) (c : Client) :
    (c.run ops).log.seen.capacity = c.log.seen.capacity := by
  refine run_induction (P := fun c' _ => c'.log.seen.capacity = c.log.seen.capacity) ?_ c [] rfl
  intro c' es o _ hc
  rw [← hc]
  rcases c'.log_perform_cases es o with ⟨hl, _⟩ | ⟨e, hl, _⟩ | ⟨_, hl, _⟩ | ⟨entries, _, hl, _⟩ <;>
    rw [hl]
  · exact SessionLog.capacity_merge _ _
  · rfl
  · exact SessionLog.capacity_replace _ _

end log

/-! ### Runs of deliveries -/

section deliveries

/-- The message brings the entry to the client. -/
def Delivers (c : Client) (m : Message) (e : Entry) : Prop :=
  ∃ origin, c.delivery? m = some (e, origin)

/-- What a message brings depends on the current generation only. -/
theorem delivery?_congr {c c' : Client} (h : c.generation = c'.generation) (m : Message) :
    c.delivery? m = c'.delivery? m := by
  cases m <;> simp only [delivery?, h]

theorem Delivers.congr {c c' : Client} (h : c.generation = c'.generation) {m : Message}
    {e : Entry} (hd : c.Delivers m e) : c'.Delivers m e := by
  obtain ⟨origin, ho⟩ := hd
  exact ⟨origin, by rw [← delivery?_congr h, ho]⟩

theorem generation_handle_of_delivers {c : Client} {m : Message} {e : Entry}
    (hd : c.Delivers m e) : (c.handle m).client.generation = c.generation := by
  obtain ⟨origin, ho⟩ := hd
  rw [handle_of_delivery ho, client_merge]

theorem arrivals_of_delivers {ms : List Message} {es : List Entry} {c : Client}
    (h : List.Forall₂ c.Delivers ms es) (before : List Entry) :
    c.arrivals before (ms.map .handle) = before ++ es := by
  induction ms generalizing c es before with
  | nil =>
      cases h
      exact (List.append_nil before).symm
  | cons m ms ih =>
      cases h with
      | @cons _ e _ es hd hrest =>
          have hg := (generation_handle_of_delivers hd).symm
          have harr : c.arrived before (.handle m) = before ++ [e] := by
            obtain ⟨origin, ho⟩ := hd
            simp [arrived, ho]
          show (c.handle m).client.arrivals (c.arrived before (.handle m)) (ms.map .handle) = _
          rw [harr, ih (hrest.imp fun _ _ hd' => hd'.congr hg), List.append_assoc,
            List.singleton_append]

end deliveries

end Client
end PenPlotter
