import WorkHost.Config.Settings
import WorkHost.Queue.Channel
import WorkHost.Telemetry.Report

/-!
Contract: the task queue, its ways to enqueue, and what is reported about them.

There are three ways: waiting for a place, waiting until a token fires, and not
waiting at all. Under the policy of rejection the first two are the third. Every
attempt that comes to an end is reported once, with the result that its caller gets.
-/

namespace WorkHost

/-- What the queue needs to know about an item. -/
class Queued (α : Type) where
  id : α → WorkId
  kind : α → WorkKind
  /-- The name of the service that the item asks for. -/
  dependency : α → Option String

structure TaskQueue (α : Type) where
  channel : Channel α
  policy : OverflowPolicy
deriving DecidableEq, Repr

/-- How an attempt to enqueue stands. -/
inductive Enqueueing where
  | done (result : Except Failure WorkId)
  /-- The producer waits for a place. -/
  | waiting

namespace TaskQueue

variable {α : Type} [Queued α]

def create (config : QueueConfig) : TaskQueue α := ⟨.create config.capacity, config.overflow⟩

def len (queue : TaskQueue α) : Nat := queue.channel.len

def capacity (queue : TaskQueue α) : Nat := queue.channel.capacity

def isEmpty (queue : TaskQueue α) : Bool := queue.len == 0

def isClosed (queue : TaskQueue α) : Bool := queue.channel.closed

/-- The result of an attempt, once the channel has answered. -/
def conclude (queue : TaskQueue α) (item : α) : Sending → Enqueueing
  | .sent => .done (.ok (Queued.id item))
  | .full => .done (.error (.queueFull queue.capacity))
  | .closed => .done (.error .queueClosed)
  | .waiting => .waiting

/-- Enqueues without waiting. -/
def tryEnqueue (queue : TaskQueue α) (item : α) : Enqueueing × TaskQueue α :=
  let (sending, channel) := queue.channel.trySend item
  (queue.conclude item sending, { queue with channel })

/-- Starts to enqueue as the policy says. -/
def enqueue (queue : TaskQueue α) (ticket : Ticket) (item : α) : Enqueueing × TaskQueue α :=
  match queue.policy with
  | .reject => queue.tryEnqueue item
  | .wait =>
    let (sending, channel) := queue.channel.send ticket item
    (queue.conclude item sending, { queue with channel })

/-- Starts to enqueue; under the waiting policy a token that has fired comes first. -/
def enqueueWithCancel (queue : TaskQueue α) (ticket : Ticket) (cancelled : Bool) (item : α) :
    Enqueueing × TaskQueue α :=
  match queue.policy with
  | .reject => queue.tryEnqueue item
  | .wait =>
    if cancelled then (.done (.error .enqueueCancelled), queue)
    else queue.enqueue ticket item

/-- A waiting producer looks again. -/
def resume (queue : TaskQueue α) (ticket : Ticket) (item : α) : Enqueueing × TaskQueue α :=
  let (sending, channel) := queue.channel.resume ticket item
  (queue.conclude item sending, { queue with channel })

/-- A producer gives up waiting; also gives the producer that gets its place. -/
def withdraw (queue : TaskQueue α) (ticket : Ticket) : Option Ticket × TaskQueue α :=
  let (woken, channel) := queue.channel.withdraw ticket
  (woken, { queue with channel })

/-- A waiting producer looks again, at its token first. -/
def resumeWithCancel (queue : TaskQueue α) (ticket : Ticket) (cancelled : Bool) (item : α) :
    Enqueueing × Option Ticket × TaskQueue α :=
  if cancelled then
    let (woken, queue) := queue.withdraw ticket
    (.done (.error .enqueueCancelled), woken, queue)
  else
    let (progress, queue) := queue.resume ticket item
    (progress, none, queue)

/-- The label under which a result is counted. -/
def resultLabel : Except Failure WorkId → EnqueueResult
  | .ok _ => .ok
  | .error (.queueFull _) => .full
  | .error .enqueueCancelled => .cancelled
  | .error _ => .closed

/-- What is reported about an attempt that has come to an end. -/
def reports (queue : TaskQueue α) (item : α) (result : Except Failure WorkId) : List Report :=
  let label := resultLabel result
  let kind := Queued.kind item
  [.measure (.enqueued kind label),
    .line .debug "enqueue" [("work.id", .id (Queued.id item)), ("work.kind", .text kind.text),
      ("result", .text label.text), ("depth", .number queue.len)]]

end TaskQueue

end WorkHost
