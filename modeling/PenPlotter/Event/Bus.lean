import PenPlotter.Event.Basic

/-! # The event bus

The bus passes each published event to the subscribed handlers whose filter admits it, in the
order of subscription, and keeps it for the receivers.  The receivers share the last
`EventBus.capacity` events; one that falls behind further is told how many it has missed. -/

namespace PenPlotter

/-- Which events a handler is called for. -/
inductive EventFilter where
  | all
  | categories (admitted : List EventCategory)
deriving Repr, DecidableEq, Inhabited

def EventFilter.admits : EventFilter → Event → Bool
  | .all, _ => true
  | .categories admitted, e => admitted.contains e.category

/-- A handler's place on the bus. -/
structure Subscription where
  id : Nat
  filter : EventFilter
deriving Repr, DecidableEq, Inhabited

/-- A reader of the kept events: `next` counts the events before the one it reads next. -/
structure Receiver where
  id : Nat
  next : Nat
deriving Repr, DecidableEq, Inhabited

/-- Subscriptions in their order, receivers, and the events kept for them. -/
structure EventBus where
  subscriptions : List Subscription
  receivers : List Receiver
  /-- The kept events, the newest first. -/
  recent : List Event
  /-- How many events were ever kept. -/
  kept : Nat
  nextSubscription : Nat
  nextReceiver : Nat
deriving Repr, Inhabited

/-- What one attempt to receive gives. -/
inductive Received where
  | event (e : Event)
  | empty
  /-- So many events were overwritten before they were read. -/
  | lagged (missed : Nat)
  /-- There is no such receiver. -/
  | dropped
deriving Repr, Inhabited

namespace EventBus

/-- How many events are kept for the receivers. -/
def capacity : Nat := 256

/-- The bus without subscriptions and receivers. -/
def empty : EventBus := ⟨[], [], [], 0, 0, 0⟩

/-- Adds a handler and gives its identity. -/
def subscribe (b : EventBus) (filter : EventFilter) : EventBus × Nat :=
  ({ b with
      subscriptions := b.subscriptions ++ [⟨b.nextSubscription, filter⟩]
      nextSubscription := b.nextSubscription + 1 }, b.nextSubscription)

/-- Removes a handler; tells whether it was there. -/
def unsubscribe (b : EventBus) (id : Nat) : EventBus × Bool :=
  let remaining := b.subscriptions.filter (·.id != id)
  ({ b with subscriptions := remaining }, remaining.length != b.subscriptions.length)

/-- The handlers called for an event, in order. -/
def handlersFor (b : EventBus) (e : Event) : List Nat :=
  (b.subscriptions.filter (·.filter.admits e)).map (·.id)

/-- Keeps an event when there are receivers. -/
def keep (b : EventBus) (e : Event) : EventBus :=
  if b.receivers.isEmpty then b
  else { b with recent := (e :: b.recent).take capacity, kept := b.kept + 1 }

/-- Publishes an event: the bus afterwards, the handlers called, and how many observers the event
was delivered to, receivers included. -/
def publish (b : EventBus) (e : Event) : EventBus × List Nat × Nat :=
  let handlers := b.handlersFor e
  (b.keep e, handlers, handlers.length + b.receivers.length)

def subscriberCount (b : EventBus) : Nat := b.subscriptions.length

/-- Adds a receiver of the events published from now on. -/
def addReceiver (b : EventBus) : EventBus × Nat :=
  ({ b with
      receivers := b.receivers ++ [⟨b.nextReceiver, b.kept⟩]
      nextReceiver := b.nextReceiver + 1 }, b.nextReceiver)

def dropReceiver (b : EventBus) (id : Nat) : EventBus :=
  { b with receivers := b.receivers.filter (·.id != id) }

/-- Moves a receiver to another event. -/
def seek (b : EventBus) (id next : Nat) : EventBus :=
  { b with receivers := b.receivers.map fun r => if r.id = id then { r with next } else r }

/-- The next event of a receiver, if there is one already. -/
def tryReceive (b : EventBus) (id : Nat) : EventBus × Received :=
  match b.receivers.find? (·.id == id) with
  | none => (b, .dropped)
  | some r =>
    let oldest := b.kept - capacity
    if r.next < oldest then (b.seek id oldest, .lagged (oldest - r.next))
    else if b.kept ≤ r.next then (b, .empty)
    else
      match b.recent[b.kept - 1 - r.next]? with
      | none => (b, .empty)
      | some e => (b.seek id (r.next + 1), .event e)

/-- The bus as diagnostics show it. -/
def text (b : EventBus) : String :=
  "EventBus \x7b subscribers: " ++ toString b.subscriberCount ++ " \x7d"

end EventBus

/-- The identity of a subscription as diagnostics show it: eight hexadecimal digits. -/
def subscriptionText (id : Nat) : String :=
  let ds := Nat.toDigits 16 (id % 0x100000000)
  "Sub(" ++ String.ofList (List.replicate (8 - ds.length) '0' ++ ds) ++ ")"

end PenPlotter
