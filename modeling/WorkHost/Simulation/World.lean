import WorkHost.Event.Bus
import WorkHost.Host.Basic
import WorkHost.Host.Scheduler
import WorkHost.Work.Action

/-!
Contract: a host among other tasks, on one thread and a virtual clock.

A task runs until it has to wait or has used up its turn; tasks that become ready run
in the order in which they became ready. The clock counts milliseconds and moves only when no task can run,
straight to the next time that a task waits for. This module holds the state of such
a world and the changes that all tasks share.
-/

namespace WorkHost

/-- A task besides the worker and the scheduler. -/
inductive Task where
  | run (run : ItemRun)
  /-- Enqueues one item; `begun` once it has tried. -/
  | producer (offered : WorkItem) (begun : Bool)
  /-- Cancels a token some time after it has begun. -/
  | alarm (token : Nat) (delay : Nat) (deadline : Option Nat)

/-- The scheduler with what it needs to make its work. -/
structure Firing where
  scheduler : Scheduler
  /-- The item that each job enqueues. -/
  items : List Item
  cancelled : Bool
  /-- The item that it is enqueueing. -/
  offered : Option WorkItem
  enqueued : Option (Except Failure WorkId)

structure World where
  now : Nat
  /-- What the clock on the wall shows all the time. -/
  clock : Calendar.Instant
  factory : ScopeFactory
  host : Host WorkItem
  /-- The task of the item in flight. -/
  flight : Option Ticket
  firing : Option Firing
  tasks : List (Ticket × Task)
  nextTicket : Ticket
  /-- The tasks that can run, in the order in which they became ready. -/
  ready : List Ticket
  /-- The tasks that let others go first. -/
  deferred : List Ticket
  cancelledTokens : List Nat
  /-- Whether somebody waits for the host to end, so that it can no longer be asked. -/
  hostGone : Bool
  bus : EventBus
  reports : Array Report
  log : Array (Nat × String)
  nextSerial : Nat
  /-- The label of every item that was made. -/
  labels : Array (WorkId × String)
  /-- What came of the items that producers enqueued. -/
  spawned : Array (Nat × String × Except Failure WorkId)
  /-- How many scheduled runs there were. -/
  runs : Nat
  /-- After how many scheduled runs the scheduler is cancelled. -/
  stopAfter : Option Nat
  /-- A second panic, or one that nobody catches, has ended the process. -/
  crashed : Bool

namespace World

/-- The one who set the world up waits on this ticket. -/
def scriptTicket : Ticket := 0

def workerTicket : Ticket := 1

def schedulerTicket : Ticket := 2

/-- A world in which the worker is about to begin. -/
def create (clock : Calendar.Instant) (factory : ScopeFactory) (config : QueueConfig)
    (bus : EventBus) : World where
  now := 0
  clock
  factory
  host := .create config
  flight := none
  firing := none
  tasks := []
  nextTicket := 3
  ready := [workerTicket]
  deferred := []
  cancelledTokens := []
  hostGone := false
  bus
  reports := #[]
  log := #[]
  nextSerial := 0
  labels := #[]
  spawned := #[]
  runs := 0
  stopAfter := none
  crashed := false

def crash (world : World) : World := { world with crashed := true }

/-! ## What is shown -/

def note (world : World) (line : String) : World :=
  { world with log := world.log.push (world.now, line) }

def emitReport (world : World) (report : Report) : World :=
  { world with
    reports := world.reports.push report
    bus :=
      match report with
      | .event kind => world.bus.emit world.clock kind
      | _ => world.bus }

def emitReports (world : World) (reports : List Report) : World :=
  reports.foldl emitReport world

/-- A journal that goes on where the world is. -/
def journal (world : World) : Journal := .ofSerial world.nextSerial

def keep (world : World) (journal : Journal) : World :=
  let world := journal.lines.foldl note { world with nextSerial := journal.nextSerial }
  world.emitReports journal.reports

def labelOf (world : World) (id : WorkId) : Option String :=
  (world.labels.find? fun entry => entry.1 = id).map Prod.snd

/-! ## Tasks -/

def task? (world : World) (ticket : Ticket) : Option Task :=
  (world.tasks.find? fun entry => entry.1 = ticket).map Prod.snd

def setTask (world : World) (ticket : Ticket) (task : Task) : World :=
  { world with
    tasks := world.tasks.map fun entry =>
      if entry.1 = ticket then (ticket, task) else entry }

def removeTask (world : World) (ticket : Ticket) : World :=
  { world with
    tasks := world.tasks.filter (fun entry => entry.1 ≠ ticket)
    deferred := world.deferred.filter (· ≠ ticket) }

/-- Adds a task, which runs for the first time when its turn comes. -/
def addTask (world : World) (task : Task) : Ticket × World :=
  let ticket := world.nextTicket
  (ticket, { world with
    tasks := world.tasks ++ [(ticket, task)]
    nextTicket := ticket + 1
    ready := world.ready ++ [ticket] })

/-- A task that is ready already stays where it is. -/
def wake (world : World) (ticket : Ticket) : World :=
  if ticket = scriptTicket ∨ world.ready.contains ticket then world
  else { world with ready := world.ready ++ [ticket] }

def wakeAll (world : World) (tickets : List Ticket) : World := tickets.foldl wake world

def wakeWorkerIf (world : World) (condition : Bool) : World :=
  if condition then world.wake workerTicket else world

/-! ## The host -/

def setQueue (world : World) (queue : TaskQueue WorkItem) : World :=
  { world with host := { world.host with queue } }

def setChannel (world : World) (channel : Channel WorkItem) : World :=
  world.setQueue { world.host.queue with channel }

/-- Requests the worker to stop. -/
def stopHost (world : World) : World :=
  if world.host.stopping then world
  else { world with host := world.host.requestStop }.wakeWorkerIf world.host.awaitsStop

/-- The worker is woken when the last handle is gone. -/
def dropHandle (world : World) : World :=
  let channel := world.host.queue.channel.dropHandle
  (world.setChannel channel).wakeWorkerIf (channel.handles = 0 ∧ world.host.awaitsItem)

def addHandle (world : World) : World :=
  world.setChannel world.host.queue.channel.addHandle

def cancelScheduler (world : World) : World :=
  match world.firing with
  | some firing =>
    { world with firing := some { firing with cancelled := true } }.wake schedulerTicket
  | none => world

/-! ## Items -/

/-- Makes an item with a new identifier. -/
def makeWork (world : World) (item : Item) : WorkItem × World :=
  let id := WorkId.ofEntropy (world.labels.size + 1)
  let world := { world with labels := world.labels.push (id, item.label) }
  (⟨id, world.clock, item⟩, if item.holdsHandle then world.addHandle else world)

def releaseHandle (world : World) (item : Item) : World :=
  if item.holdsHandle then world.dropHandle else world

/-- Drops an item that was never started; gives the panic of its destructor. -/
def dropWork (world : World) (work : WorkItem) : Option Payload × World :=
  let (panic, journal) := work.item.drop world.journal
  (panic, (world.keep journal).releaseHandle work.item)

/-- How an attempt to enqueue has come out. -/
inductive Offer where
  | done (result : Except Failure WorkId)
  | waiting
  /-- The destructor of the refused item panicked. -/
  | panicked (payload : Payload)

/-- Ends an attempt to enqueue. A refused item is dropped before the refusal is
reported. -/
def concludeOffer (world : World) (work : WorkItem) (progress : Enqueueing) : Offer × World :=
  match progress with
  | .waiting => (.waiting, world)
  | .done (.ok id) =>
    let world := world.wakeWorkerIf world.host.awaitsItem
    (.done (.ok id), world.emitReports (world.host.queue.reports work (.ok id)))
  | .done (.error failure) =>
    match world.dropWork work with
    | (some payload, world) => (.panicked payload, world)
    | (none, world) =>
      (.done (.error failure), world.emitReports (world.host.queue.reports work (.error failure)))

/-- Starts to enqueue as the policy says. -/
def offer (world : World) (ticket : Ticket) (work : WorkItem) : Offer × World :=
  let (progress, queue) := world.host.queue.enqueue ticket work
  (world.setQueue queue).concludeOffer work progress

def offerWithCancel (world : World) (ticket : Ticket) (cancelled : Bool) (work : WorkItem) :
    Offer × World :=
  let (progress, queue) := world.host.queue.enqueueWithCancel ticket cancelled work
  (world.setQueue queue).concludeOffer work progress

def offerNow (world : World) (work : WorkItem) : Offer × World :=
  let (progress, queue) := world.host.queue.tryEnqueue work
  (world.setQueue queue).concludeOffer work progress

/-- Goes on with an attempt that waited. -/
def resumeOffer (world : World) (ticket : Ticket) (cancelled : Bool) (work : WorkItem) :
    Offer × World :=
  let (progress, woken, queue) := world.host.queue.resumeWithCancel ticket cancelled work
  ((world.setQueue queue).wakeAll woken.toList).concludeOffer work progress

/-- Gives up an attempt that waits; the item is the caller's to drop. -/
def withdraw (world : World) (ticket : Ticket) : World :=
  let (woken, queue) := world.host.queue.withdraw ticket
  (world.setQueue queue).wakeAll woken.toList

end World

end WorkHost
