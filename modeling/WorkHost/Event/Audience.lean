import WorkHost.Event.Bus

/-!
Contract: an event bus with several handles and subscribers side by side.

Handles and subscribers are numbered as they are made.
-/

namespace WorkHost

structure Audience where
  bus : EventBus
  /-- Which of the handles still exist. -/
  handles : List Bool
  /-- The subscribers, as long as they exist. -/
  subscribers : List (Option Subscription)
deriving Repr

inductive AudienceOp where
  | subscribe (handle : Nat)
  | emit (handle : Nat) (kind : EventKind) (times : Nat)
  | receive (subscriber : Nat)
  | cloneHandle (handle : Nat)
  | dropHandle (handle : Nat)
  | dropSubscriber (subscriber : Nat)
deriving DecidableEq, Repr

inductive AudienceAnswer where
  | nothing
  | number (value : Nat)
  | received (reception : Reception)
deriving DecidableEq, Repr

namespace Audience

def create (capacity : Nat) : Audience := ⟨.create capacity, [true], []⟩

def isAlive (audience : Audience) (handle : Nat) : Bool := audience.handles.getD handle false

def emitTimes (bus : EventBus) (timestamp : Calendar.Instant) (kind : EventKind) : Nat → EventBus
  | 0 => bus
  | times + 1 => emitTimes (bus.emit timestamp kind) timestamp kind times

/-- Performs an operation at a given time. -/
def perform (audience : Audience) (time : Calendar.Instant) (op : AudienceOp) :
    AudienceAnswer × Audience :=
  match op with
  | .subscribe handle =>
    if audience.isAlive handle then
      (.number audience.subscribers.length,
        { audience with subscribers := audience.subscribers ++ [some audience.bus.subscribe] })
    else (.nothing, audience)
  | .emit handle kind times =>
    if audience.isAlive handle then
      (.nothing, { audience with bus := emitTimes audience.bus time kind times })
    else (.nothing, audience)
  | .receive subscriber =>
    match audience.subscribers[subscriber]? with
    | some (some subscription) =>
      let (reception, subscription) := audience.bus.receive subscription
      (.received reception,
        { audience with
          subscribers := audience.subscribers.set subscriber (some subscription) })
    | _ => (.nothing, audience)
  | .cloneHandle handle =>
    if audience.isAlive handle then
      (.number audience.handles.length,
        { audience with
          handles := audience.handles ++ [true]
          bus := { audience.bus with handles := audience.bus.handles + 1 } })
    else (.nothing, audience)
  | .dropHandle handle =>
    if audience.isAlive handle then
      (.nothing,
        { audience with
          handles := audience.handles.set handle false
          bus := { audience.bus with handles := audience.bus.handles - 1 } })
    else (.nothing, audience)
  | .dropSubscriber subscriber =>
    (.nothing, { audience with subscribers := audience.subscribers.set subscriber none })

def run (audience : Audience) (time : Calendar.Instant) : List AudienceOp → List AudienceAnswer
  | [] => []
  | op :: rest =>
    let (answer, audience) := audience.perform time op
    answer :: run audience time rest

end Audience

end WorkHost
