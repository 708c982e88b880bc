import WorkHost.Queue.TaskQueue
import WorkHost.Work.Execution
import WorkHost.Work.State

/-!
Contract: the worker, the only consumer of the task queue.

The worker takes one item at a time, has it executed on a task of its own and reports
how it ended. When a stop is requested it closes the queue, lets the item in flight
finish within a grace period, aborts it otherwise, and discards what is still
buffered. `Worker.step` is one step of it: between two steps anything else may happen
to the queue, the item in flight and the request to stop.
-/

namespace WorkHost

/-- How the worker came to a stop. -/
inductive ShutdownOutcome where
  /-- The item in flight, if any, finished in time. -/
  | graceful
  /-- The item in flight was aborted. -/
  | forced
deriving DecidableEq, Repr

def ShutdownOutcome.text : ShutdownOutcome → String
  | .graceful => "Graceful"
  | .forced => "Forced"

/-- The item in flight. -/
structure Flight where
  id : WorkId
  kind : WorkKind
  /-- The name of the service it asked for. -/
  dependency : Option String
  startedAt : Nat
deriving DecidableEq, Repr

/-- How an executed item ended, as it is reported. -/
inductive ExecutionResult where
  | completed
  | failed (reason : String)
  | panicked (message : String)
  | aborted
deriving DecidableEq, Repr

def ExecutionResult.outcome : ExecutionResult → WorkOutcome
  | .completed => .ok
  | .failed _ => .error
  | .panicked _ => .panic
  | .aborted => .aborted

/-- A process that has crashed reports nothing. -/
def ExecutionResult.ofConclusion? : Conclusion → Option ExecutionResult
  | .completed => some .completed
  | .failed reason => some (.failed reason)
  | .panicked message => some (.panicked message)
  | .aborted => some .aborted
  | .crashed => none

/-- What the worker does next. -/
inductive Phase (α : Type) where
  | starting
  | dequeuing
  | launching (item : α)
  | executing (flight : Flight)
  /-- A stop was observed; the queue is about to be closed. -/
  | closing (flight : Option Flight)
  /-- The queue is closed; draining is about to begin. -/
  | announcing (flight : Option Flight)
  | draining (flight : Flight) (deadline : Nat)
  | aborting (flight : Flight) (deadline : Nat)
  | reporting (flight : Flight) (result : ExecutionResult)
  | reported
  /-- No further item will be taken. -/
  | leaving
  | sealing
  | discarding (count : Nat)
  | summing (count : Nat)
  | finishing
  | ended
  /-- The destructor of a discarded item panicked. -/
  | dead (message : String)
deriving DecidableEq, Repr

structure Worker (α : Type) where
  phase : Phase α
  state : WorkerState
  outcome : ShutdownOutcome
deriving DecidableEq, Repr

/-- What the worker sees of its surroundings. -/
structure Surroundings where
  /-- Milliseconds since the start. -/
  now : Nat
  /-- How long the item in flight may run after a stop was requested. -/
  graceMs : Nat
  stopping : Bool
  /-- How the item in flight ended, once it has. -/
  ended : Option ExecutionResult
deriving DecidableEq, Repr

/-- What the worker asks for. -/
inductive Command (α : Type) where
  /-- Execute an item on a task of its own. -/
  | execute (item : α)
  /-- Cancel the token of the item in flight and abort it. -/
  | abort
  /-- Drop an item that was never started. -/
  | discard (item : α)
deriving DecidableEq, Repr

/-- The effect of one step. -/
structure Stride (α : Type) where
  worker : Worker α
  channel : Channel α
  reports : List Report
  command : Option (Command α)
  /-- Producers that have been given a place or turned away. -/
  woken : List Ticket
deriving DecidableEq, Repr

/-- Log fields hold the last 64 bits of a time. -/
def loggedMs (milliseconds : Nat) : Nat := milliseconds % Text.wordLimit

/-- How long an aborted item may take before it is left behind. -/
def abortGraceMs : Nat := 100

namespace Flight

variable {α : Type} [Queued α]

def ofItem (item : α) (now : Nat) : Flight :=
  ⟨Queued.id item, Queued.kind item, Queued.dependency item, now⟩

def dependencyText (flight : Flight) : String := flight.dependency.getD "-"

/-- The span of the execution. -/
def span (flight : Flight) : Report :=
  .log (.span "work.execute" [("work.id", .id flight.id), ("work.kind", .text flight.kind.text),
    ("work.dependency", .text flight.dependencyText)])

/-- What is reported when an item is started. -/
def startReports (flight : Flight) : List Report :=
  [flight.span, .event (.workStarted flight.id flight.kind.text flight.dependency)]

/-- The log line and the event about the end of an item. -/
def endReports (flight : Flight) (graceMs durationMs : Nat) : ExecutionResult → List Report
  | .completed =>
    [.line .debug "background work completed" [("work.id", .id flight.id),
        ("work.kind", .text flight.kind.text), ("duration_ms", .number durationMs)],
      .event (.workCompleted flight.id durationMs)]
  | .failed reason =>
    [.line .error "background work failed" [("work.id", .id flight.id),
        ("work.kind", .text flight.kind.text), ("work.dependency", .text flight.dependencyText),
        ("duration_ms", .number durationMs), ("error", .text reason)],
      .event (.workFailed flight.id reason durationMs)]
  | .panicked message =>
    [.line .error "background work panicked" [("work.id", .id flight.id),
        ("work.kind", .text flight.kind.text), ("work.dependency", .text flight.dependencyText),
        ("duration_ms", .number durationMs), ("panic", .text message)],
      .event (.workPanicked flight.id message)]
  | .aborted =>
    [.line .warn "forced stop: in-flight work exceeded shutdown timeout"
        [("work.id", .id flight.id), ("work.kind", .text flight.kind.text),
          ("duration_ms", .number durationMs), ("timeout_ms", .number (loggedMs graceMs))],
      .event (.forcedStop flight.id)]

/-- All that is reported about the end of an item. -/
def reports (flight : Flight) (graceMs durationMs : Nat) (result : ExecutionResult) :
    List Report :=
  .log (.spanFields "work.execute" [("work.outcome", .text result.outcome.text)])
    :: .measure (.executed flight.kind result.outcome)
    :: .measure (.duration flight.kind durationMs)
    :: flight.endReports graceMs durationMs result

end Flight

namespace Worker

variable {α : Type} [Queued α]

def create : Worker α := ⟨.starting, .running, .graceful⟩

def startedReports (graceMs : Nat) : List Report :=
  [.line .info "background worker started" [("shutdown_timeout_ms", .number (loggedMs graceMs))],
    .event .workerStarted]

def transitionReport (source target : WorkerState) : Report :=
  .line .debug "worker state transition"
    [("from", .text source.text), ("to", .text target.text)]

def drainReports (source : WorkerState) (queued : Nat) : List Report :=
  [transitionReport source .draining,
    .line .info "background worker draining" [("queued", .number queued)],
    .event .drainStarted]

def handlesDropped : Report :=
  .line .info "all task queue handles dropped, worker exiting" []

def discardReports (count : Nat) : List Report :=
  if count = 0 then []
  else
    [.line .warn "discarded queued work at shutdown" [("count", .number count)],
      .event (.workDiscarded count)]

def stoppedReports (source : WorkerState) (outcome : ShutdownOutcome) : List Report :=
  [transitionReport source .stopped, .event .workerStopped,
    .line .info "background worker stopped" [("outcome", .text outcome.text)]]

def leftBehind (flight : Flight) : Report :=
  .line .warn "work did not yield after abort, leaving it detached" [("work.id", .id flight.id)]

/-- A step to a phase that changes nothing else. -/
def moveTo (worker : Worker α) (channel : Channel α) (phase : Phase α)
    (reports : List Report) : Option (Stride α) :=
  some ⟨{ worker with phase }, channel, reports, none, []⟩

/-- Takes the next item unless a stop was requested; the request is looked at first. -/
def dequeue (worker : Worker α) (channel : Channel α) (stopping : Bool) : Option (Stride α) :=
  if stopping then worker.moveTo channel .leaving []
  else
    match channel.receive with
    | (.item item, woken, channel) =>
      some ⟨{ worker with phase := .launching item }, channel, [], none, woken.toList⟩
    | (.ended, _, _) => worker.moveTo channel .leaving []
    | (.pending, _, _) => none

/-- Closes the queue and goes on to a phase. -/
def close (worker : Worker α) (channel : Channel α) (phase : Phase α) : Option (Stride α) :=
  let (woken, channel) := channel.close
  some ⟨{ worker with phase }, channel, [], none, woken⟩

/-- Enters draining, unless that has happened before. -/
def announce (worker : Worker α) (channel : Channel α) (phase : Phase α) : Option (Stride α) :=
  if worker.state.canTransition .draining then
    some ⟨{ worker with phase, state := .draining }, channel,
      drainReports worker.state channel.buffer.length, none, []⟩
  else worker.moveTo channel phase []

def report (worker : Worker α) (channel : Channel α) (surroundings : Surroundings)
    (flight : Flight) (result : ExecutionResult) : Option (Stride α) :=
  let durationMs := surroundings.now - flight.startedAt
  let outcome := if result = .aborted then .forced else worker.outcome
  some ⟨{ worker with phase := .reported, outcome }, channel,
    flight.reports surroundings.graceMs durationMs result, none, []⟩

/-- One step; nothing if the worker has to wait or has ended. -/
def step (surroundings : Surroundings) (worker : Worker α) (channel : Channel α) :
    Option (Stride α) :=
  match worker.phase with
  | .starting => worker.moveTo channel .dequeuing (startedReports surroundings.graceMs)
  | .dequeuing => worker.dequeue channel surroundings.stopping
  | .launching item =>
    let flight := Flight.ofItem item surroundings.now
    some ⟨{ worker with phase := .executing flight }, channel, flight.startReports,
      some (.execute item), []⟩
  | .executing flight =>
    match surroundings.ended with
    | some result => worker.moveTo channel (.reporting flight result) []
    | none =>
      if surroundings.stopping then worker.moveTo channel (.closing (some flight)) [] else none
  | .closing flight => worker.close channel (.announcing flight)
  | .announcing (some flight) =>
    worker.announce channel (.draining flight (surroundings.now + surroundings.graceMs))
  | .announcing none => worker.announce channel .sealing
  | .draining flight deadline =>
    match surroundings.ended with
    | some result => worker.moveTo channel (.reporting flight result) []
    | none =>
      if deadline ≤ surroundings.now then
        some ⟨{ worker with phase := .aborting flight (surroundings.now + abortGraceMs) },
          channel, [], some .abort, []⟩
      else none
  | .aborting flight deadline =>
    if surroundings.ended.isSome then worker.moveTo channel (.reporting flight .aborted) []
    else if deadline ≤ surroundings.now then
      worker.moveTo channel (.reporting flight .aborted) [leftBehind flight]
    else none
  | .reporting flight result => worker.report channel surroundings flight result
  | .reported =>
    worker.moveTo channel (if surroundings.stopping then .leaving else .dequeuing) []
  | .leaving =>
    if surroundings.stopping then worker.moveTo channel (.closing none) []
    else worker.moveTo channel .sealing [handlesDropped]
  | .sealing => worker.close channel (.discarding 0)
  | .discarding count =>
    match channel.receive with
    | (.item item, woken, channel) =>
      some ⟨{ worker with phase := .discarding (count + 1) }, channel, [],
        some (.discard item), woken.toList⟩
    | (_, _, channel) => worker.moveTo channel (.summing count) []
  | .summing count => worker.moveTo channel .finishing (discardReports count)
  | .finishing =>
    some ⟨{ worker with phase := .ended, state := .stopped }, channel,
      stoppedReports worker.state worker.outcome, none, []⟩
  | .ended => none
  | .dead _ => none

/-- When the worker wants to be woken by the clock. -/
def deadline? (worker : Worker α) : Option Nat :=
  match worker.phase with
  | .draining _ deadline | .aborting _ deadline => some deadline
  | _ => none

/-- The outcome that whoever waits for the worker gets, once it has ended. A worker that
died counts as forced. -/
def result? (worker : Worker α) : Option ShutdownOutcome :=
  match worker.phase with
  | .ended => some worker.outcome
  | .dead _ => some .forced
  | _ => none

end Worker

end WorkHost
