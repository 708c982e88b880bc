import WorkHost.Queue.TaskQueue

/-!
Contract: a task queue between several handles and one receiver, without a worker.

Every attempt to put an item in has a handle of its own while it lasts. After each
operation the attempts that can end do so, in the order in which they were made.
-/

namespace WorkHost

/-- An attempt to enqueue that waits. -/
structure Producer (α : Type) where
  ticket : Ticket
  label : String
  item : α
  /-- The token that makes it give up. -/
  token : Option Nat
deriving DecidableEq, Repr

structure Exchange (α : Type) where
  queue : TaskQueue α
  hasReceiver : Bool
  /-- Whether the receiver was told to take nothing more. -/
  stopping : Bool
  /-- Which of the handles still exist. -/
  handles : List Bool
  producers : List (Producer α)
  cancelledTokens : List Nat
  nextTicket : Ticket
  reports : List Report
deriving DecidableEq, Repr

inductive ExchangeOp (α : Type) where
  | put (handle : Nat) (label : String) (item : α) (token : Option Nat)
  | tryPut (handle : Nat) (item : α)
  | cancel (token : Nat)
  /-- Drops an attempt that waits. -/
  | abandon (label : String)
  | get
  | stop
  | close
  | discard
  | dropReceiver
  | cloneHandle (handle : Nat)
  | dropHandle (handle : Nat)
deriving DecidableEq, Repr

inductive ExchangeAnswer (α : Type) where
  | nothing
  | queued
  | failed (failure : Failure)
  | flag (value : Bool)
  | number (value : Nat)
  | got (item : α)
  /-- Nothing will come, or the receiver was told to stop. -/
  | ended
  | pending
  | noReceiver
deriving DecidableEq, Repr

/-- What an operation shows. -/
structure ExchangeStep (α : Type) where
  answer : ExchangeAnswer α
  /-- The attempts that ended, by their labels. -/
  ended : List (String × Except Failure WorkId)
  /-- The labels of the attempts that still wait. -/
  waiting : List String
  /-- The queue afterwards. -/
  queue : TaskQueue α
  /-- Whether a handle is left that can be asked about the queue. -/
  hasHandle : Bool
  hasReceiver : Bool

namespace Exchange

variable {α : Type} [Queued α]

def create (config : QueueConfig) : Exchange α :=
  ⟨.create config, true, false, [true], [], [], 0, []⟩

def setQueue (exchange : Exchange α) (queue : TaskQueue α) : Exchange α :=
  { exchange with queue }

def setChannel (exchange : Exchange α) (channel : Channel α) : Exchange α :=
  exchange.setQueue { exchange.queue with channel }

def isAlive (exchange : Exchange α) (handle : Nat) : Bool := exchange.handles.getD handle false

def isCancelled (exchange : Exchange α) (token : Option Nat) : Bool :=
  token.any exchange.cancelledTokens.contains

def report (exchange : Exchange α) (item : α) (result : Except Failure WorkId) : Exchange α :=
  { exchange with reports := exchange.reports ++ exchange.queue.reports item result }

/-- Ends an attempt, which gives back its handle. -/
def finish (exchange : Exchange α) (item : α) (result : Except Failure WorkId) : Exchange α :=
  let exchange := exchange.report item result
  exchange.setChannel exchange.queue.channel.dropHandle

abbrev Ended := List (String × Except Failure WorkId)

/-- A waiting attempt looks again. -/
def resume (state : Ended × Exchange α) (producer : Producer α) : Ended × Exchange α :=
  let (ended, exchange) := state
  let (progress, _, queue) := exchange.queue.resumeWithCancel producer.ticket
    (exchange.isCancelled producer.token) producer.item
  let exchange := exchange.setQueue queue
  match progress with
  | .waiting => (ended, { exchange with producers := exchange.producers ++ [producer] })
  | .done result => (ended ++ [(producer.label, result)], exchange.finish producer.item result)

/-- All waiting attempts look again. -/
def settle (exchange : Exchange α) : Ended × Exchange α :=
  exchange.producers.foldl resume ([], { exchange with producers := [] })

/-- Starts an attempt. -/
def put (exchange : Exchange α) (label : String) (item : α) (token : Option Nat) :
    Ended × Exchange α :=
  let ticket := exchange.nextTicket
  let (progress, queue) :=
    match token with
    | none => exchange.queue.enqueue ticket item
    | some _ => exchange.queue.enqueueWithCancel ticket (exchange.isCancelled token) item
  let exchange := { exchange with queue, nextTicket := ticket + 1 }
  let exchange := exchange.setChannel exchange.queue.channel.addHandle
  match progress with
  | .waiting =>
    ([], { exchange with producers := exchange.producers ++ [⟨ticket, label, item, token⟩] })
  | .done result => ([(label, result)], exchange.finish item result)

def tryPut (exchange : Exchange α) (item : α) : ExchangeAnswer α × Exchange α :=
  let (progress, queue) := exchange.queue.tryEnqueue item
  let exchange := exchange.setQueue queue
  match progress with
  | .waiting => (.nothing, exchange)
  | .done result =>
    (match result with
      | .ok _ => .queued
      | .error failure => .failed failure,
      exchange.report item result)

/-- Drops the waiting attempts of a label. -/
def abandon (exchange : Exchange α) (label : String) : ExchangeAnswer α × Exchange α :=
  match exchange.producers.find? fun producer => producer.label = label with
  | none => (.flag false, exchange)
  | some producer =>
    let (_, queue) := exchange.queue.withdraw producer.ticket
    let exchange := exchange.setQueue queue
    let producers := exchange.producers.filter fun other => other.ticket ≠ producer.ticket
    (.flag true, { exchange with producers }.setChannel exchange.queue.channel.dropHandle)

def get (exchange : Exchange α) : ExchangeAnswer α × Exchange α :=
  if !exchange.hasReceiver then (.noReceiver, exchange)
  else
    match exchange.queue.channel.dequeue exchange.stopping with
    | (.item item, _, channel) => (.got item, exchange.setChannel channel)
    | (.ended, _, channel) => (.ended, exchange.setChannel channel)
    | (.pending, _, channel) => (.pending, exchange.setChannel channel)

/-- Closes the queue and drops what is buffered; gives how many items that were. -/
def clear (exchange : Exchange α) : Nat × Exchange α :=
  let (items, channel) := exchange.queue.channel.closeAndDiscard
  (items.length, exchange.setChannel channel)

/-- Performs an operation, before other attempts get their turn. -/
def perform (exchange : Exchange α) (op : ExchangeOp α) :
    ExchangeAnswer α × Ended × Exchange α :=
  let plain (result : ExchangeAnswer α × Exchange α) := (result.1, [], result.2)
  match op with
  | .put handle label item token =>
    if exchange.isAlive handle then (.nothing, exchange.put label item token)
    else (.nothing, [], exchange)
  | .tryPut handle item =>
    if exchange.isAlive handle then plain (exchange.tryPut item) else (.nothing, [], exchange)
  | .cancel token =>
    (.nothing, [], { exchange with cancelledTokens := token :: exchange.cancelledTokens })
  | .abandon label => plain (exchange.abandon label)
  | .get => plain exchange.get
  | .stop => (.nothing, [], { exchange with stopping := true })
  | .close =>
    if exchange.hasReceiver then
      (.nothing, [], exchange.setChannel exchange.queue.channel.close.2)
    else (.nothing, [], exchange)
  | .discard =>
    if exchange.hasReceiver then
      let (count, exchange) := exchange.clear
      (.number count, [], exchange)
    else (.nothing, [], exchange)
  | .dropReceiver =>
    if exchange.hasReceiver then (.nothing, [], { exchange.clear.2 with hasReceiver := false })
    else (.nothing, [], exchange)
  | .cloneHandle handle =>
    if exchange.isAlive handle then
      (.number exchange.handles.length, [],
        { exchange with handles := exchange.handles ++ [true] }.setChannel
          exchange.queue.channel.addHandle)
    else (.nothing, [], exchange)
  | .dropHandle handle =>
    if exchange.isAlive handle then
      (.nothing, [],
        { exchange with handles := exchange.handles.set handle false }.setChannel
          exchange.queue.channel.dropHandle)
    else (.nothing, [], exchange)

/-- Performs an operation and lets everything settle. -/
def turn (exchange : Exchange α) (op : ExchangeOp α) : ExchangeStep α × Exchange α :=
  let (answer, begun, exchange) := exchange.perform op
  let (ended, exchange) := exchange.settle
  ({ answer
     ended := begun ++ ended
     waiting := exchange.producers.map Producer.label
     queue := exchange.queue
     hasHandle := exchange.handles.any id
     hasReceiver := exchange.hasReceiver }, exchange)

def run (exchange : Exchange α) : List (ExchangeOp α) → List (ExchangeStep α) × Exchange α
  | [] => ([], exchange)
  | op :: rest =>
    let (step, exchange) := exchange.turn op
    let (steps, exchange) := run exchange rest
    (step :: steps, exchange)

end Exchange

end WorkHost
