import WorkHost.Simulation.Turn

/-!
Contract: a host that is used step by step, as a program would use it.

The script holds one handle of the queue. After each of its steps everything runs
until nothing can move without the clock, and the state of the worker is noted.
-/

namespace WorkHost

inductive ScriptStep where
  /-- Enqueues an item, for a limited time. -/
  | queue (item : Item)
  /-- Enqueues an item with a token that is cancelled after a time. -/
  | queueWithCancel (item : Item) (delay : Nat)
  | tryQueue (item : Item)
  /-- Enqueues an item from a task of its own. -/
  | spawn (item : Item)
  | length
  | isClosed
  | sleep (milliseconds : Nat)
  /-- Requests a stop. -/
  | stop
  /-- Adds a subscriber to the events. -/
  | subscribe
  /-- Drops the script's handle. -/
  | dropHandle
  /-- Requests a stop and waits for it, for a limited time. -/
  | shutdown
  /-- Drops the script's handle and waits for the worker, for a limited time. -/
  | join

inductive ScriptAnswer where
  | nothing
  | queued
  | failed (failure : Failure)
  | gaveUp
  | noHandle
  /-- The length of the queue and its capacity. -/
  | occupancy (length capacity : Nat)
  | flag (value : Bool)
  | stopped (outcome : ShutdownOutcome)
deriving DecidableEq, Repr

structure Script where
  world : World
  /-- Whether the script still has its handle. -/
  hasHandle : Bool
  /-- Where the subscribers of the events began. -/
  subscribers : List Subscription
  /-- What came of waiting for the worker. -/
  outcome : Option ScriptAnswer

/-- An answered step. -/
structure ScriptEntry where
  /-- When the step ended. -/
  time : Nat
  answer : ScriptAnswer
  /-- The state of the worker once everything had settled. -/
  state : WorkerState
deriving DecidableEq, Repr

namespace ScriptStep

def needsHandle : ScriptStep → Bool
  | .queue _ | .queueWithCancel .. | .tryQueue _ | .spawn _ | .length | .isClosed => true
  | _ => false

/-- Whether the step waits for the worker to end. -/
def isFinal : ScriptStep → Bool
  | .shutdown | .join => true
  | _ => false

end ScriptStep

namespace Script

/-- How long a step waits at most. -/
def patienceMs : Nat := 100000

/-- A script whose first subscriber sees everything. -/
def start (clock : Calendar.Instant) (factory : ScopeFactory) (config : QueueConfig)
    (busCapacity : Nat) : Script :=
  let bus := EventBus.create busCapacity
  ⟨.create clock factory config bus, true, [bus.subscribe], none⟩

def setWorld (script : Script) (world : World) : Script := { script with world }

def answer (result : Except Failure WorkId) : ScriptAnswer :=
  match result with
  | .ok _ => .queued
  | .error failure => .failed failure

/-- Looks whether an attempt to enqueue has ended. -/
def pollOffer (work : WorkItem) (token : Option Nat) (world : World) : Option World.Offer × World :=
  let cancelled := token.any world.cancelledTokens.contains
  match world.resumeOffer World.scriptTicket cancelled work with
  | (.waiting, world) => (none, world)
  | (offer, world) => (some offer, world)

/-- Drops an item that nobody waits for any more. -/
def dropWork (world : World) (work : WorkItem) : World :=
  match world.dropWork work with
  | (some _, world) => world.crash
  | (none, world) => world

/-- The answer to an attempt that does not wait any more. -/
def concludeOffer (work : WorkItem) : Option World.Offer → World → ScriptAnswer × World
  | some (.done result), world => (answer result, world)
  | some (.panicked _), world => (.nothing, world.crash)
  | some .waiting, world | none, world =>
    (.gaveUp, dropWork (world.withdraw World.scriptTicket) work)

/-- Waits for an attempt to enqueue that has begun. -/
def awaitOffer (work : WorkItem) (token deadline : Option Nat) (begun : World.Offer × World) :
    ScriptAnswer × World :=
  match begun with
  | (.waiting, world) =>
    let (offer, world) := world.await (pollOffer work token) deadline
    concludeOffer work offer world
  | (offer, world) => concludeOffer work (some offer) world

/-- A panic of the worker is reported to whoever waits for it. -/
def workerFailed (message : String) : Report :=
  .line .error "background worker task failed"
    [("error", .text ("task " ++ toString World.workerTicket ++ " panicked with message "
      ++ Text.quoted message))]

def awaitWorker (world : World) : ScriptAnswer × World :=
  let (outcome, world) :=
    world.await (fun world => (world.host.worker.result?, world)) (some (world.now + patienceMs))
  match outcome with
  | none => (.gaveUp, world)
  | some outcome =>
    match world.host.worker.phase with
    | .dead message => (.stopped outcome, world.emitReport (workerFailed message))
    | _ => (.stopped outcome, world)

def shuttingDown : Report := .line .info "background host shutting down" []

def loseHandle (script : Script) : Script :=
  if script.hasHandle then { script with hasHandle := false, world := script.world.dropHandle }
  else script

/-- Waits for the worker; from now on the host cannot be asked any more. -/
def conclude (script : Script) : ScriptAnswer × Script :=
  let (answer, world) := awaitWorker { script.world with hostGone := true }
  (answer, { script with world, outcome := some answer })

/-- Performs a step that has the handle it needs. -/
def perform (script : Script) (step : ScriptStep) : ScriptAnswer × Script :=
  let world := script.world
  let withWorld (result : ScriptAnswer × World) := (result.1, script.setWorld result.2)
  match step with
  | .queue item =>
    let (work, world) := world.makeWork item
    withWorld (awaitOffer work none (some (world.now + patienceMs))
      (world.offer World.scriptTicket work))
  | .queueWithCancel item delay =>
    let (work, world) := world.makeWork item
    let (token, world) :=
      if delay = 0 then
        (0, { world with cancelledTokens := 0 :: world.cancelledTokens })
      else
        let token := world.nextTicket
        (token, (world.addTask (.alarm token delay none)).2)
    withWorld (awaitOffer work (some token) none
      (world.offerWithCancel World.scriptTicket (delay = 0) work))
  | .tryQueue item =>
    let (work, world) := world.makeWork item
    withWorld (awaitOffer work none none (world.offerNow work))
  | .spawn item =>
    let (work, world) := world.makeWork item
    withWorld (.nothing, (world.addHandle.addTask (.producer work false)).2)
  | .length => (.occupancy world.host.queue.len world.host.queue.capacity, script)
  | .isClosed => (.flag world.host.queue.isClosed, script)
  | .sleep milliseconds => withWorld (.nothing, world.sleep milliseconds)
  | .stop => withWorld (.nothing, if world.hostGone then world else world.stopHost)
  | .subscribe =>
    (.nothing, { script with subscribers := script.subscribers ++ [world.bus.subscribe] })
  | .dropHandle => (.nothing, script.loseHandle)
  | .shutdown => (script.setWorld (world.emitReport shuttingDown).stopHost).conclude
  | .join => script.loseHandle.conclude

/-- Performs a step and lets everything settle. -/
def turn (script : Script) (step : ScriptStep) : ScriptEntry × Script :=
  let (answer, script) :=
    if step.needsHandle && !script.hasHandle then (.noHandle, script) else script.perform step
  let time := script.world.now
  let world := script.world.settle
  (⟨time, answer, world.host.worker.state⟩, script.setWorld world)

def runSteps (script : Script) : List ScriptStep → List ScriptEntry × Script
  | [] => ([], script)
  | step :: rest =>
    let (entry, script) := script.turn step
    let (entries, script) := runSteps script rest
    (entry :: entries, script)

/-- A script ends with waiting for the worker. -/
def complete (steps : List ScriptStep) : List ScriptStep :=
  if steps.any ScriptStep.isFinal then steps else steps ++ [.shutdown]

def run (script : Script) (steps : List ScriptStep) : List ScriptEntry × Script :=
  script.runSteps (complete steps)

/-- What each subscriber receives at the end. -/
def received (script : Script) : List (List Reception) :=
  script.subscribers.map script.world.bus.drainAll

end Script

end WorkHost
