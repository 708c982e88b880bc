import WorkHost.Simulation.Run

/-!
Contract: the turns of all tasks, and how turns and the clock alternate.

A round lets the ready tasks have their turns, those too that become ready meanwhile, up
to a limit; then the tasks that stepped back become ready again. `settle` goes through rounds
until nothing can move without the clock, and `await` also moves the clock until its
condition holds.
-/

namespace WorkHost.World

/-! ## The worker -/

/-- The destructor of a discarded item has panicked. What is still buffered is dropped
while the panic is under way. -/
def loseWorker (world : World) (payload : Payload) : World :=
  let buffered := world.host.queue.channel.buffer
  let world := { world with host := world.host.abandon payload.message }
  buffered.foldl
    (fun world work =>
      match world.dropWork work with
      | (some _, world) => world.crash
      | (none, world) => world)
    world

/-- Does what the worker asks for. -/
def obey (world : World) : Command WorkItem → World
  | .execute work =>
    let (ticket, world) := world.addTask (.run (.ofWork work))
    { world with flight := some ticket }
  | .abort =>
    match world.flight with
    | some ticket => world.orderAbort ticket
    | none => world
  | .discard work =>
    match world.dropWork work with
    | (some payload, world) => world.loseWorker payload
    | (none, world) => world

/-- A turn of the worker, of at most `fuel` steps. -/
def pollWorker : Nat → World → World
  | 0, world => world
  | fuel + 1, world =>
    match world.host.step world.now with
    | none => world
    | some stride =>
      let world := { world with host := stride.host }.emitReports stride.reports
      let world := world.wakeAll stride.woken
      pollWorker fuel (stride.command.elim world world.obey)

/-- Between two waits the worker starts at most one item and discards the buffer. -/
def workerFuel (world : World) : Nat := world.host.queue.channel.buffer.length + 32

/-! ## The other tasks -/

/-- Ends the task of a producer, which gives back its handle. -/
def endProducer (world : World) (ticket : Ticket) : World :=
  (world.removeTask ticket).dropHandle

def pollProducer (world : World) (ticket : Ticket) (offered : WorkItem) (begun : Bool) : World :=
  let (offer, world) :=
    if begun then world.resumeOffer ticket false offered else world.offer ticket offered
  match offer with
  | .done result =>
    { world with
      spawned := world.spawned.push (world.now, offered.item.label, result) }.endProducer ticket
  | .waiting => world.setTask ticket (.producer offered true)
  | .panicked _ => world.endProducer ticket

def pollAlarm (world : World) (ticket : Ticket) (token delay : Nat) (deadline : Option Nat) :
    World :=
  let deadline := deadline.getD (world.now + delay)
  if deadline ≤ world.now then
    { world with cancelledTokens := token :: world.cancelledTokens }.removeTask ticket
  else world.setTask ticket (.alarm token delay (some deadline))

/-! ## The scheduler -/

def schedulerView (world : World) (firing : Firing) : SchedulerView :=
  ⟨world.now, world.clock, firing.cancelled, firing.enqueued⟩

def setFiring (world : World) (firing : Firing) : World := { world with firing := some firing }

/-- Keeps what came of enqueueing the work of a job. -/
def answerScheduler (world : World) (firing : Firing) (work : WorkItem) : Offer → World
  | .done result => world.setFiring { firing with offered := none, enqueued := some result }
  | .waiting => world.setFiring { firing with offered := some work, enqueued := none }
  | .panicked _ => world.crash

/-- Enqueues the work of the job at a place. -/
def fire (world : World) (firing : Firing) (index : Nat) : World :=
  let (work, world) := world.makeWork (firing.items[index]?.getD default)
  let (offer, world) := world.offerWithCancel schedulerTicket firing.cancelled work
  world.answerScheduler firing work offer

/-- Goes on with what the scheduler is enqueueing. -/
def resumeFiring (world : World) (firing : Firing) : World :=
  match firing.offered with
  | none => world
  | some work =>
    let (offer, world) := world.resumeOffer schedulerTicket firing.cancelled work
    world.answerScheduler firing work offer

/-- Makes steps of the scheduler until it waits, at most `fuel` of them. When it ends it
gives back its handle. -/
def stepScheduler : Nat → World → World
  | 0, world => world
  | fuel + 1, world =>
    match world.firing with
    | none => world
    | some firing =>
      match firing.scheduler.step (world.schedulerView firing) with
      | none => world
      | some stride =>
        let firing := { firing with scheduler := stride.scheduler, enqueued := none }
        let world := (world.setFiring firing).emitReports stride.reports
        if stride.scheduler.hasEnded then world.dropHandle
        else
          match stride.enqueue with
          | none => stepScheduler fuel world
          | some index => stepScheduler fuel (world.fire firing index)

/-- Between two waits the scheduler fires at most once. -/
def schedulerFuel : Nat := 16

def pollScheduler (world : World) : World :=
  match world.firing with
  | none => world
  | some firing => stepScheduler schedulerFuel (world.resumeFiring firing)

/-! ## Rounds -/

/-- One turn of a task. -/
def poll (world : World) (ticket : Ticket) : World :=
  if ticket = workerTicket then pollWorker world.workerFuel world
  else if ticket = schedulerTicket then world.pollScheduler
  else
    match world.task? ticket with
    | none => world
    | some (.run run) => world.pollRun ticket run
    | some (.producer offered begun) => world.pollProducer ticket offered begun
    | some (.alarm token delay deadline) => world.pollAlarm ticket token delay deadline

/-- Gives ready tasks their turns, at most `fuel` of them. -/
def runReady : Nat → World → World
  | 0, world => world
  | fuel + 1, world =>
    match world.ready with
    | [] => world
    | ticket :: ready => runReady fuel ({ world with ready }.poll ticket)

def isIdle (world : World) : Bool := world.ready.isEmpty && world.deferred.isEmpty

/-- More turns than any world takes without the clock. -/
def turnFuel : Nat := Nat.pow 10 12

/-- How many turns a round has at most. -/
def roundLimit : Nat := 61

def round (world : World) : World :=
  let world := runReady roundLimit world
  { world with deferred := [] }.wakeAll world.deferred

/-- Goes through rounds until nothing can move without the clock. -/
def settleWithin : Nat → World → World
  | 0, world => world
  | fuel + 1, world =>
    if world.isIdle || world.crashed then world else settleWithin fuel world.round

def settle (world : World) : World := settleWithin turnFuel world

/-! ## The clock -/

/-- The time that a task waits for. -/
def Task.deadline? : Task → Option Nat
  | .run run =>
    match run.wait with
    | .clock deadline => some deadline
    | _ => none
  | .producer .. => none
  | .alarm _ _ deadline => deadline

/-- All times that tasks wait for. -/
def deadlines (world : World) : List (Ticket × Nat) :=
  let worker := world.host.worker.deadline?.map (workerTicket, ·)
  let scheduler := (world.firing.bind (·.scheduler.deadline?)).map (schedulerTicket, ·)
  worker.toList ++ scheduler.toList ++ world.tasks.filterMap fun (ticket, task) =>
    (Task.deadline? task).map (ticket, ·)

/-- Moves the clock and wakes those who waited for it. -/
def moveClock (world : World) (time : Nat) : World :=
  let due := world.deadlines.filter fun entry => entry.2 ≤ time
  { world with now := time }.wakeAll (due.map Prod.fst)

/-- Waits until `poll` gives a result, at the latest until `deadline`. It gives nothing
at the deadline, and without one when the world stands still for good. -/
def awaitWithin {β : Type} (poll : World → Option β × World) (deadline : Option Nat) :
    Nat → World → Option β × World
  | 0, world => (none, world)
  | fuel + 1, world =>
    match poll world with
    | (some result, world) => (some result, world)
    | (none, world) =>
      if world.crashed || deadline.any (· ≤ world.now) then (none, world)
      else if world.isIdle then
        match ((world.deadlines.map Prod.snd) ++ deadline.toList).min? with
        | none => (none, world)
        | some time => awaitWithin poll deadline fuel (world.moveClock time)
      else awaitWithin poll deadline fuel world.round

def await {β : Type} (world : World) (poll : World → Option β × World)
    (deadline : Option Nat) : Option β × World :=
  awaitWithin poll deadline turnFuel world

/-- Lets an amount of time pass. -/
def sleep (world : World) (milliseconds : Nat) : World :=
  (world.await (fun world => ((none : Option Unit), world))
    (some (world.now + milliseconds))).2

end WorkHost.World
