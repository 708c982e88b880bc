import WorkHost.Event.Kind

/-!
Contract: the stream of events and its subscribers.

The bus is the history of its events, numbered from 1. The latest of them can be
received, as many as its capacity rounded up to a power of two. A subscriber that has
fallen further behind is told how many events it has missed and goes on with the oldest
one kept; emitting never waits.
-/

namespace WorkHost

structure EventBus where
  /-- How many events are kept for subscribers. -/
  slots : Nat
  /-- All events so far, in order. -/
  emitted : Array Event
  /-- How many handles for emitting exist. -/
  handles : Nat
deriving DecidableEq, Repr

/-- A subscriber, by the number of the event that it reads next. -/
structure Subscription where
  next : Nat
deriving DecidableEq, Repr

inductive Reception where
  | event (event : Event)
  | empty
  | closed
  | lagged (missed : Nat)
deriving DecidableEq, Repr

namespace EventBus

def defaultCapacity : Nat := 256

/-- The largest capacity that a bus can be made with. -/
def capacityLimit : Nat := Nat.pow 2 56

def create (capacity : Nat) : EventBus := ⟨(max capacity 1).nextPowerOfTwo, #[], 1⟩

/-- The number of the latest event. -/
def seq (bus : EventBus) : Nat := bus.emitted.size

/-- Gives the event the next number. -/
def emit (bus : EventBus) (timestamp : Calendar.Instant) (kind : EventKind) : EventBus :=
  let number := bus.seq + 1
  { bus with emitted := bus.emitted.push ⟨number, timestamp, kind⟩ }

/-- A new subscriber sees the events emitted from now on. -/
def subscribe (bus : EventBus) : Subscription := ⟨bus.seq + 1⟩

/-- The number of the oldest event kept. -/
def oldest (bus : EventBus) : Nat := bus.seq + 1 - bus.slots

/-- The next event for a subscriber. -/
def receive (bus : EventBus) (subscription : Subscription) : Reception × Subscription :=
  if subscription.next < bus.oldest then
    (.lagged (bus.oldest - subscription.next), ⟨bus.oldest⟩)
  else
    match bus.emitted[subscription.next - 1]? with
    | some event => (.event event, ⟨subscription.next + 1⟩)
    | none => (if bus.handles = 0 then .closed else .empty, subscription)

/-- Receives until nothing is left; `fuel` bounds the number of receptions. -/
def drain (bus : EventBus) : Nat → Subscription → List Reception
  | 0, _ => []
  | fuel + 1, subscription =>
    match bus.receive subscription with
    | (.empty, _) | (.closed, _) => []
    | (reception, subscription) => reception :: drain bus fuel subscription

/-- All that a subscriber can still receive: at most one notice of a lag, and events. -/
def drainAll (bus : EventBus) (subscription : Subscription) : List Reception :=
  bus.drain (bus.seq + 2) subscription

end EventBus

end WorkHost
