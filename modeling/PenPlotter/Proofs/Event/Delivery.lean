import Mathlib.Data.List.Basic
import PenPlotter.Event.Bus

/-! # Delivery of events

Handlers and receivers come and go while events are published.  `BusAction.left` says from a history
of actions alone what is left of all that they have brought: each thing has a number, in the order in
which they came, and is left unless a later action takes this number away.  A bus keeps just that
(`EventBus.Follows.run`), for its handlers and for its receivers, so that an event is delivered by
what has happened and not by what the bus has stored: `EventBus.delivers_exactly`. -/

namespace PenPlotter

/-- What can be done to a bus. -/
inductive BusAction where
  | subscribe (filter : EventFilter)
  | unsubscribe (id : ℕ)
  | addReceiver
  | dropReceiver (id : ℕ)
  | receive (id : ℕ)
  | publish (e : Event)
deriving Repr, Inhabited

/-- The filter lets all events pass, or lists the category of this one. -/
def EventFilter.Matches (filter : EventFilter) (e : Event) : Prop :=
  filter = .all ∨ ∃ admitted, filter = .categories admitted ∧ e.category ∈ admitted

theorem EventFilter.admits_iff {filter : EventFilter} {e : Event} :
    filter.admits e = true ↔ filter.Matches e := by
  cases filter <;> simp [admits, Matches]

namespace BusAction

/-- The filter of the handler that an action subscribes. -/
def handler? : BusAction → Option EventFilter
  | .subscribe filter => some filter
  | _ => none

def handlerGone? : BusAction → Option ℕ
  | .unsubscribe id => some id
  | _ => none

def receiver? : BusAction → Option Unit
  | .addReceiver => some ()
  | _ => none

def receiverGone? : BusAction → Option ℕ
  | .dropReceiver id => some id
  | _ => none

section left

variable {β : Type} (brings? : BusAction → Option β) (takes? : BusAction → Option ℕ)

/-- What the actions of a history bring, with numbers from `next` on in the order in which it comes,
less what a later action takes away. -/
def left (next : ℕ) : List BusAction → List (ℕ × β)
  | [] => []
  | a :: later =>
    match brings? a with
    | none => left next later
    | some x =>
      if next ∈ later.filterMap takes? then left (next + 1) later
      else (next, x) :: left (next + 1) later

theorem left_of_none {a : BusAction} (h : brings? a = none) (next : ℕ) (later : List BusAction) :
    left brings? takes? next (a :: later) = left brings? takes? next later := by
  rw [left, h]

theorem left_of_some {a : BusAction} {x : β} (h : brings? a = some x) (next : ℕ)
    (later : List BusAction) :
    left brings? takes? next (a :: later) =
      [(next, x)].filter (fun y => decide (y.1 ∉ later.filterMap takes?)) ++
        left brings? takes? (next + 1) later := by
  rw [left, h]
  by_cases hgone : next ∈ later.filterMap takes?
  · rw [List.filter_cons_of_neg (by simpa using hgone), List.filter_nil, List.nil_append]
    exact if_pos hgone
  · rw [List.filter_cons_of_pos (by simpa using hgone), List.filter_nil, List.singleton_append]
    exact if_neg hgone

variable {brings? takes?}

theorem le_of_mem_left {next : ℕ} {history : List BusAction} {x : ℕ × β}
    (h : x ∈ left brings? takes? next history) : next ≤ x.1 := by
  induction history generalizing next with
  | nil => cases h
  | cons a later ih =>
      cases ha : brings? a with
      | none =>
          rw [left_of_none _ _ ha] at h
          exact ih h
      | some y =>
          rw [left_of_some _ _ ha] at h
          rcases List.mem_append.mp h with hfirst | hlater
          · have hx := List.mem_singleton.mp (List.mem_of_mem_filter hfirst)
            exact Nat.le_of_eq (congrArg Prod.fst hx).symm
          · exact Nat.le_of_succ_le (ih hlater)

theorem pairwise_left (next : ℕ) (history : List BusAction) :
    ((left brings? takes? next history).map (·.1)).Pairwise (· < ·) := by
  induction history generalizing next with
  | nil => exact List.Pairwise.nil
  | cons a later ih =>
      cases ha : brings? a with
      | none =>
          rw [left_of_none _ _ ha]
          exact ih next
      | some y =>
          rw [left, ha]
          dsimp only
          split
          · exact ih (next + 1)
          · refine List.pairwise_cons.mpr ⟨fun id hid => ?_, ih (next + 1)⟩
            obtain ⟨x, hx, rfl⟩ := List.mem_map.mp hid
            exact le_of_mem_left hx

end left

/-- The handlers that a history leaves, with their filters, in the order of subscription. -/
def handlers (history : List BusAction) : List (ℕ × EventFilter) :=
  left handler? handlerGone? 0 history

/-- The receivers that a history leaves. -/
def receivers (history : List BusAction) : List (ℕ × Unit) :=
  left receiver? receiverGone? 0 history

end BusAction

namespace EventBus

open BusAction (left)

/-- The bus after an action. -/
def perform (b : EventBus) : BusAction → EventBus
  | .subscribe filter => (b.subscribe filter).1
  | .unsubscribe id => (b.unsubscribe id).1
  | .addReceiver => b.addReceiver.1
  | .dropReceiver id => b.dropReceiver id
  | .receive id => (b.tryReceive id).1
  | .publish e => (b.publish e).1

/-- The bus after a history of actions. -/
def run (b : EventBus) (history : List BusAction) : EventBus := history.foldl perform b

/-- The handlers of a bus with their filters. -/
def handlers (b : EventBus) : List (ℕ × EventFilter) :=
  b.subscriptions.map fun s => (s.id, s.filter)

/-! ### What a bus keeps -/

section keeping

variable {β : Type} {view : EventBus → List (ℕ × β)} {next : EventBus → ℕ}
  {brings? : BusAction → Option β} {takes? : BusAction → Option ℕ}

/-- A list on the bus follows the actions: what one brings is put at the end with the next number,
and what one takes away is removed. -/
structure Follows (view : EventBus → List (ℕ × β)) (next : EventBus → ℕ)
    (brings? : BusAction → Option β) (takes? : BusAction → Option ℕ) : Prop where
  view_perform : ∀ b a, view (b.perform a) =
    (view b).filter (fun x => decide (takes? a ≠ some x.1)) ++
      ((brings? a).map fun x => (next b, x)).toList
  next_perform : ∀ b a, next (b.perform a) = next b + (brings? a).toList.length

/-- **A list that follows the actions** holds what the history has left. -/
theorem Follows.run (h : Follows view next brings? takes?) (b : EventBus)
    (history : List BusAction) :
    view (b.run history) =
      (view b).filter (fun x => decide (x.1 ∉ history.filterMap takes?)) ++
        left brings? takes? (next b) history := by
  induction history generalizing b with
  | nil => simp [EventBus.run, left]
  | cons a later ih =>
      have hkept : ((view b).filter fun x => decide (takes? a ≠ some x.1)).filter
          (fun x => decide (x.1 ∉ later.filterMap takes?)) =
          (view b).filter fun x => decide (x.1 ∉ (a :: later).filterMap takes?) := by
        rw [List.filter_filter]
        refine List.filter_congr fun x _ => ?_
        cases hgone : takes? a with
        | none => simp [List.filterMap_cons_none hgone]
        | some id => simp [List.filterMap_cons_some hgone, eq_comm, Bool.and_comm]
      show view ((b.perform a).run later) = _
      rw [ih, h.view_perform, h.next_perform, List.filter_append, hkept, List.append_assoc]
      congr 1
      cases ha : brings? a with
      | none =>
          rw [BusAction.left_of_none _ _ ha]
          rfl
      | some x =>
          rw [BusAction.left_of_some _ _ ha]
          rfl

end keeping

/-! ### Handlers and receivers -/

section observers

/-- The receivers of a bus; there is nothing to say of them but their numbers. -/
def readers (b : EventBus) : List (ℕ × Unit) := (b.receivers.map (·.id)).map fun id => (id, ())

/-- Nobody has come to a bus, and nobody has gone. -/
structure SameObservers (b b' : EventBus) : Prop where
  subscriptions : b'.subscriptions = b.subscriptions
  nextSubscription : b'.nextSubscription = b.nextSubscription
  receivers : b'.receivers.map (·.id) = b.receivers.map (·.id)
  nextReceiver : b'.nextReceiver = b.nextReceiver

variable (b : EventBus)

theorem SameObservers.refl : SameObservers b b := ⟨rfl, rfl, rfl, rfl⟩

theorem sameObservers_seek (id next : ℕ) : SameObservers b (b.seek id next) := by
  refine ⟨rfl, rfl, ?_, rfl⟩
  show (b.receivers.map _).map _ = _
  rw [List.map_map]
  refine List.map_congr_left fun r _ => ?_
  by_cases h : r.id = id <;> simp [h]

theorem sameObservers_tryReceive (id : ℕ) : SameObservers b (b.tryReceive id).1 := by
  unfold tryReceive
  split
  · exact .refl b
  · dsimp only
    split
    · exact b.sameObservers_seek _ _
    split
    · exact .refl b
    split
    · exact .refl b
    · exact b.sameObservers_seek _ _

theorem sameObservers_publish (e : Event) : SameObservers b (b.publish e).1 := by
  show SameObservers b (b.keep e)
  unfold keep
  split
  · exact .refl b
  · exact ⟨rfl, rfl, rfl, rfl⟩

variable {β : Type}

theorem filter_none_append (l : List (ℕ × β)) (n : ℕ) :
    l.filter (fun x => decide (none ≠ some x.1)) ++
      ((none : Option β).map fun x => (n, x)).toList = l := by
  simp

theorem map_filter_ne {σ : Type} (f : σ → ℕ × β) (id : ℕ) (l : List σ) :
    (l.filter fun s => (f s).1 != id).map f =
      (l.map f).filter fun x => decide (some id ≠ some x.1) := by
  rw [List.filter_map]
  refine congrArg _ (List.filter_congr fun s _ => ?_)
  by_cases h : (f s).1 = id
  · simp [h]
  · simp [h, Ne.symm h]

theorem follows_handlers :
    Follows handlers nextSubscription BusAction.handler? BusAction.handlerGone? where
  view_perform b a := by
    have hsame := (filter_none_append b.handlers b.nextSubscription).symm
    cases a with
    | subscribe filter =>
        simp [perform, subscribe, handlers, BusAction.handler?, BusAction.handlerGone?]
    | unsubscribe id =>
        refine Eq.trans ?_ (List.append_nil _).symm
        exact map_filter_ne (fun s : Subscription => (s.id, s.filter)) id b.subscriptions
    | addReceiver | dropReceiver => exact hsame
    | receive id =>
        exact (congrArg (List.map _) (b.sameObservers_tryReceive id).subscriptions).trans hsame
    | publish e =>
        exact (congrArg (List.map _) (b.sameObservers_publish e).subscriptions).trans hsame
  next_perform b a := by
    cases a with
    | receive id => exact (b.sameObservers_tryReceive id).nextSubscription
    | publish e => exact (b.sameObservers_publish e).nextSubscription
    | subscribe | unsubscribe | addReceiver | dropReceiver => rfl

theorem follows_readers :
    Follows readers nextReceiver BusAction.receiver? BusAction.receiverGone? where
  view_perform b a := by
    have hsame := (filter_none_append b.readers b.nextReceiver).symm
    cases a with
    | addReceiver =>
        simp [perform, addReceiver, readers, BusAction.receiver?, BusAction.receiverGone?]
    | dropReceiver id =>
        refine Eq.trans ?_ (List.append_nil _).symm
        simp only [readers, List.map_map]
        exact map_filter_ne (fun r : Receiver => (r.id, ())) id b.receivers
    | subscribe | unsubscribe => exact hsame
    | receive id =>
        exact (congrArg (List.map _) (b.sameObservers_tryReceive id).receivers).trans hsame
    | publish e =>
        exact (congrArg (List.map _) (b.sameObservers_publish e).receivers).trans hsame
  next_perform b a := by
    cases a with
    | receive id => exact (b.sameObservers_tryReceive id).nextReceiver
    | publish e => exact (b.sameObservers_publish e).nextReceiver
    | subscribe | unsubscribe | addReceiver | dropReceiver => rfl

theorem handlersFor_eq (e : Event) :
    b.handlersFor e = (b.handlers.filter (·.2.admits e)).map (·.1) := by
  simp [handlersFor, handlers, List.filter_map, Function.comp_def]

theorem unsubscribe_snd_iff (id : ℕ) :
    (b.unsubscribe id).2 = true ↔ ∃ filter, (id, filter) ∈ b.handlers := by
  have hsome : (∃ filter, (id, filter) ∈ b.handlers) ↔ ∃ s ∈ b.subscriptions, s.id = id := by
    simp [handlers]
  rw [hsome, unsubscribe, bne_iff_ne, Ne, List.length_filter_eq_length_iff]
  simp

variable {b}

theorem unsubscribe_of_not {id : ℕ} (h : (b.unsubscribe id).2 = false) :
    (b.unsubscribe id).1 = b := by
  have hlength : (b.subscriptions.filter (·.id != id)).length = b.subscriptions.length := by
    simpa [unsubscribe] using h
  rw [List.length_filter_eq_length_iff] at hlength
  simp only [unsubscribe, List.filter_eq_self.mpr hlength]

/-- The handlers that are called are in order, and they are those that match. -/
theorem calls_of_handlers (hb : (b.handlers.map (·.1)).Pairwise (· < ·)) (e : Event) :
    (b.handlersFor e).Pairwise (· < ·) ∧
      ∀ id, id ∈ b.handlersFor e ↔ ∃ filter, (id, filter) ∈ b.handlers ∧ filter.Matches e := by
  rw [handlersFor_eq]
  refine ⟨hb.sublist (List.filter_sublist.map _), fun id => ?_⟩
  simp [EventFilter.admits_iff]

/-- A removal takes a handler out from between the others. -/
theorem unsubscribe_of_mem (hb : (b.handlers.map (·.1)).Pairwise (· < ·)) {id : ℕ}
    {filter : EventFilter} (h : (id, filter) ∈ b.handlers) :
    ∃ before after, b.handlers = before ++ (id, filter) :: after ∧
      (b.unsubscribe id).1.handlers = before ++ after := by
  obtain ⟨before, after, hsplit⟩ := List.append_of_mem h
  refine ⟨before, after, hsplit, ?_⟩
  have hremoved : (b.unsubscribe id).1.handlers =
      b.handlers.filter fun x => decide (some id ≠ some x.1) :=
    map_filter_ne (fun s : Subscription => (s.id, s.filter)) id b.subscriptions
  rw [hsplit, List.map_append, List.map_cons, List.pairwise_append, List.pairwise_cons] at hb
  obtain ⟨_, ⟨hafter, _⟩, hbefore⟩ := hb
  -- No other handler has the number, since numbers grow along the list.
  have hothers : ∀ x ∈ before ++ after, decide (some id ≠ some x.1) = true := by
    intro x hx
    have hne : id ≠ x.1 := by
      rcases List.mem_append.mp hx with hx | hx
      · exact (Nat.ne_of_lt (hbefore _ (List.mem_map_of_mem hx) _ List.mem_cons_self)).symm
      · exact Nat.ne_of_lt (hafter _ (List.mem_map_of_mem hx))
    simpa using hne
  rw [hremoved, hsplit, List.filter_append, List.filter_cons_of_neg (by simp), ← List.filter_append,
    List.filter_eq_self.mpr hothers]

end observers

/-! ### Histories -/

section histories

variable (history : List BusAction)

theorem handlers_run : (empty.run history).handlers = BusAction.handlers history :=
  follows_handlers.run empty history

theorem readers_run : (empty.run history).readers = BusAction.receivers history :=
  follows_readers.run empty history

/-- A new handler stands behind the others, with the number that it is given. -/
theorem handlers_concat_subscribe (filter : EventFilter) :
    BusAction.handlers (history ++ [.subscribe filter]) =
      BusAction.handlers history ++ [(((empty.run history).subscribe filter).2, filter)] := by
  rw [← handlers_run, ← handlers_run, run, List.foldl_append]
  exact List.map_append

end histories

/-- **Delivery.**  Whatever has happened to a bus since it was empty, each published event is passed
to the handlers that were subscribed and not removed since, if their filter matches it, to each once
and in the order of subscription, and to no other; the count is that of these handlers and of the
receivers that are left.  A subscription puts a handler behind the others.  A removal succeeds
exactly if the handler is there, and takes it out from between the others; otherwise it changes
nothing.  The number of handlers is that of those left. -/
theorem delivers_exactly (history : List BusAction) :
    let b := empty.run history
    let handlers := BusAction.handlers history
    (∀ e, let (_, called, count) := b.publish e
      called.Pairwise (· < ·) ∧
      (∀ id, id ∈ called ↔ ∃ filter, (id, filter) ∈ handlers ∧ filter.Matches e) ∧
      count = called.length + (BusAction.receivers history).length) ∧
    (∀ filter, BusAction.handlers (history ++ [.subscribe filter]) =
      handlers ++ [((b.subscribe filter).2, filter)]) ∧
    (∀ id, (b.unsubscribe id).2 = true ↔ ∃ filter, (id, filter) ∈ handlers) ∧
    (∀ id filter, (id, filter) ∈ handlers → ∃ before after,
      handlers = before ++ (id, filter) :: after ∧
      (b.unsubscribe id).1.handlers = before ++ after ∧
      (b.unsubscribe id).1.receivers = b.receivers) ∧
    (∀ id, (b.unsubscribe id).2 = false → (b.unsubscribe id).1 = b) ∧
    b.subscriberCount = handlers.length := by
  intro b handlers
  have hhandlers : b.handlers = handlers := handlers_run history
  have hordered : (b.handlers.map (·.1)).Pairwise (· < ·) :=
    hhandlers ▸ BusAction.pairwise_left 0 history
  have hreceivers : b.receivers.length = (BusAction.receivers history).length := by
    rw [← readers_run history]
    simp only [readers, List.length_map]
    rfl
  rw [← hhandlers]
  refine ⟨fun e => ?_, fun filter => ?_, b.unsubscribe_snd_iff, fun id filter hmem => ?_,
    fun id => unsubscribe_of_not, (List.length_map _).symm⟩
  · obtain ⟨horder, hcalled⟩ := calls_of_handlers hordered e
    exact ⟨horder, hcalled, congrArg ((b.handlersFor e).length + ·) hreceivers⟩
  · rw [hhandlers]
    exact handlers_concat_subscribe history filter
  · obtain ⟨before, after, hsplit, hremoved⟩ := unsubscribe_of_mem hordered hmem
    exact ⟨before, after, hsplit, hremoved, rfl⟩

-- Handler 0 is removed, handler 1 lists no category, handler 2 lists one twice.
example :
    let b := empty.run [.subscribe .all, .subscribe (.categories []), .unsubscribe 0,
      .unsubscribe 0, .subscribe (.categories [.session, .session]), .addReceiver]
    (b.publish (.session .logCleared)).2 = ([2], 2) := by decide

end EventBus
end PenPlotter
