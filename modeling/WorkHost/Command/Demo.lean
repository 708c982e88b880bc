import WorkHost.Command.Arguments
import WorkHost.Event.Bus
import WorkHost.Host.Basic

/-!
Contract: the demonstration, which enqueues sample work and waits for its end.

Items are numbered from 1; those with an even number are scoped, and every so many one
fails. The producer goes ahead until it has to wait for a place, then the worker goes
on. When everything is enqueued the last handle is dropped, so that the worker ends
once the backlog is done.
-/

namespace WorkHost

/-- An item of the demonstration. -/
structure DemoItem where
  number : Nat
  id : WorkId
deriving DecidableEq, Repr

namespace DemoItem

/-- The service that scoped items ask for. -/
def contextName : String := "sampleapp_bg::JobContext"

def isScoped (item : DemoItem) : Bool := item.number % 2 == 0

instance : Queued DemoItem where
  id := DemoItem.id
  kind item := if item.isScoped then .scoped else .unscoped
  dependency item := if item.isScoped then some contextName else none

end DemoItem

/-- Where identifiers come from: those of items and those of their scopes. -/
structure DemoIdentities where
  item : Nat → WorkId
  scope : Nat → WorkId

namespace DemoOptions

def fails (options : DemoOptions) (number : Nat) : Bool :=
  decide (0 < options.failEvery) && number % options.failEvery == 0

/-- How an item ends. -/
def result (options : DemoOptions) (identities : DemoIdentities) (item : DemoItem) :
    ExecutionResult :=
  if options.fails item.number then
    let text := "demo item " ++ toString item.number ++ " failed"
    .failed (if item.isScoped then text ++ " in scope " ++ (identities.scope item.number).text
      else text)
  else .completed

/-- How many events are kept for the printer. -/
def busCapacity (options : DemoOptions) : Nat :=
  max (min (options.items * 4) (Text.wordLimit - 1)) 16

end DemoOptions

/-- The demonstration on its way. -/
structure DemoRun where
  host : Host DemoItem
  bus : EventBus
  now : Nat
  /-- The number of the item to be enqueued next. -/
  next : Nat
  /-- Whether that item waits for a place. -/
  waiting : Bool
  hasHandle : Bool
  /-- Why an item could not be enqueued, which ends the demonstration. -/
  refusal : Option Failure
  /-- The item being executed. -/
  flight : Option DemoItem
deriving Repr

namespace DemoRun

/-- The producer waits on this ticket. -/
def ticket : Ticket := 0

def start (config : QueueConfig) (options : DemoOptions) : DemoRun where
  host := .create config
  bus := .create options.busCapacity
  now := 0
  next := 1
  waiting := false
  hasHandle := true
  refusal := none
  flight := none

/-- Takes in what came of enqueueing the next item. -/
def conclude (run : DemoRun) (progress : Enqueueing) (queue : TaskQueue DemoItem) : DemoRun :=
  let run := { run with host := { run.host with queue } }
  match progress with
  | .waiting => { run with waiting := true }
  | .done (.ok _) => { run with waiting := false, next := run.next + 1 }
  | .done (.error failure) => { run with refusal := some failure }

/-- A step of the producer, unless it waits or is done. -/
def produce? (run : DemoRun) (options : DemoOptions) (identities : DemoIdentities) :
    Option DemoRun :=
  let channel := run.host.queue.channel
  if run.next ≤ options.items then
    let item : DemoItem := ⟨run.next, identities.item run.next⟩
    if run.waiting then
      if channel.granted.contains ticket then
        let (progress, queue) := run.host.queue.resume ticket item
        some (run.conclude progress queue)
      else none
    else
      let (progress, queue) := run.host.queue.enqueue ticket item
      some (run.conclude progress queue)
  else if run.hasHandle then
    some { run with
      hasHandle := false
      host := { run.host with
        queue := { run.host.queue with channel := channel.dropHandle } } }
  else none

def emit (clock : Calendar.Instant) (now : Nat) (bus : EventBus) : Report → EventBus
  | .event kind => bus.emit (clock.plusMilliseconds now) kind
  | _ => bus

/-- A step of the worker. -/
def work? (run : DemoRun) (clock : Calendar.Instant) : Option DemoRun :=
  (run.host.step run.now).map fun stride =>
    { run with
      host := stride.host
      bus := stride.reports.foldl (emit clock run.now) run.bus
      flight :=
        match stride.command with
        | some (.execute item) => some item
        | _ => run.flight }

/-- The item being executed comes to its end. -/
def land? (run : DemoRun) (options : DemoOptions) (identities : DemoIdentities) :
    Option DemoRun :=
  run.flight.map fun item =>
    { run with
      now := run.now + options.workMs
      host := run.host.concludeFlight (options.result identities item)
      flight := none }

/-- The next step, as long as there is one. -/
def step? (run : DemoRun) (options : DemoOptions) (identities : DemoIdentities)
    (clock : Calendar.Instant) : Option DemoRun :=
  if run.refusal.isSome then none
  else
    ((run.produce? options identities).or (run.work? clock)).or (run.land? options identities)

def runFor (options : DemoOptions) (identities : DemoIdentities) (clock : Calendar.Instant) :
    Nat → DemoRun → DemoRun
  | 0, run => run
  | fuel + 1, run =>
    match run.step? options identities clock with
    | none => run
    | some run => runFor options identities clock fuel run

/-- Every item takes less than ten steps, and the end takes less than twenty. -/
def fuel (options : DemoOptions) : Nat := 10 * options.items + 20

def finish (run : DemoRun) (options : DemoOptions) (identities : DemoIdentities)
    (clock : Calendar.Instant) : DemoRun :=
  runFor options identities clock (fuel options) run

end DemoRun

/-! ## What is printed -/

/-- What a printer of events has counted. -/
structure DemoTally where
  completed : Nat
  failed : Nat
deriving DecidableEq, Repr

namespace DemoTally

def add (tally : DemoTally) (event : Event) : DemoTally :=
  match event.kind with
  | .workCompleted .. => { tally with completed := tally.completed + 1 }
  | .workFailed .. | .workPanicked .. => { tally with failed := tally.failed + 1 }
  | _ => tally

def summary (tally : DemoTally) : String :=
  "completed: " ++ toString tally.completed ++ ", failed: " ++ toString tally.failed

end DemoTally

/-- The events among what a subscriber received, up to the end of the worker. -/
def printedEvents : List Reception → List Event
  | [] => []
  | .event event :: rest =>
    if event.kind = .workerStopped then [event] else event :: printedEvents rest
  | _ :: rest => printedEvents rest

/-- What the demonstration shows: its events, or why it ended early. -/
def runDemo (config : QueueConfig) (options : DemoOptions) (identities : DemoIdentities)
    (clock : Calendar.Instant) : Except Failure (List Event) :=
  let start := DemoRun.start config options
  let run := start.finish options identities clock
  match run.refusal with
  | some failure => .error failure
  | none => .ok (printedEvents (run.bus.drainAll start.bus.subscribe))

end WorkHost
