import WorkHost.Simulation.World

/-!
Contract: the execution of an item as a task among others.

Every turn of the task performs steps until one has to wait. A turn in which many
operations could have waited ends by itself: the task steps back before the next one. An
abort takes effect at the next turn, or at the next wait if the thread of the task is
blocked.
-/

namespace WorkHost.World

/-- Ends the task of an item, whose state is already destroyed. -/
def endRun (world : World) (ticket : Ticket) (run : ItemRun) (conclusion : Conclusion) : World :=
  let world := (world.releaseHandle run.work.item).removeTask ticket
  match ExecutionResult.ofConclusion? conclusion with
  | none => world.crash
  | some result =>
    if world.flight = some ticket then
      { world with host := world.host.concludeFlight result }.wakeWorkerIf world.host.awaitsFlight
    else world

/-- Ends the task after its action has ended by itself. -/
def finishRun (world : World) (ticket : Ticket) (run : ItemRun) (ending : Ending) : World :=
  let (conclusion, journal) := run.work.item.finish run.guard ending world.journal
  (world.keep journal).endRun ticket run conclusion

/-- Ends the task where its action waits. -/
def abortRun (world : World) (ticket : Ticket) (run : ItemRun) : World :=
  let world :=
    match run.offered with
    | some offered => (world.withdraw ticket).releaseHandle offered.item
    | none => world
  let (conclusion, journal) :=
    run.work.item.abort run.guard (run.offered.map WorkItem.item) world.journal
  (world.keep journal).endRun ticket run conclusion

/-- The task waits, unless it is being aborted. -/
def park (world : World) (ticket : Ticket) (run : ItemRun) : World :=
  if run.aborting && !run.isBlocked then world.abortRun ticket run
  else
    let world := world.setTask ticket (.run run)
    match run.wait with
    | .yielded | .turn _ => { world with deferred := world.deferred ++ [ticket] }
    | _ => world

def noteFor (world : World) (run : ItemRun) (text : String) : World :=
  world.note (run.label ++ ": " ++ text)

def noteIfAny (world : World) (run : ItemRun) (note : Option String) : World :=
  note.elim world (world.noteFor run)

/-- The log line about an item that an action enqueued. -/
def offerText (verb : String) (item : Item) : Except Failure WorkId → String
  | .ok _ => verb ++ " " ++ item.label ++ " ok"
  | .error failure => verb ++ " " ++ item.label ++ " " ++ failure.message

def stateText (world : World) : String :=
  if world.hostGone then "?" else world.host.worker.state.text

/-- A scheduled run is counted, and may be the last one. -/
def noteRun (world : World) (run : ItemRun) : World :=
  let runs := world.runs + 1
  let world := { world with runs }.noteFor run
    ("run " ++ toString runs ++ " with " ++ ItemRun.dependencyText run.dependency)
  if world.stopAfter = some runs then world.cancelScheduler else world

/-- Enqueueing takes up a turn only where it may wait. -/
def charge (world : World) (run : ItemRun) : ItemRun :=
  if world.host.queue.policy = .wait then run.spend else run

/-- Performs the steps of an action until it waits or ends. -/
def act (ticket : Ticket) (run : ItemRun) : List Step → World → World
  | [], world => world.finishRun ticket run .returned
  | .enqueue item :: steps, world =>
    let (work, world) := world.makeWork item
    if run.credit = 0 ∧ world.host.queue.policy = .wait then
      world.park ticket { run with steps, wait := .turn work }
    else
      match world.offer ticket work with
      | (.done result, world) =>
        act ticket (world.charge run) steps
          (world.noteFor run (offerText "queue" item result))
      | (.waiting, world) => world.park ticket { run with steps, wait := .place work }
      | (.panicked payload, world) => world.finishRun ticket run (.panicked payload)
  | .tryEnqueue item :: steps, world =>
    let (work, world) := world.makeWork item
    match world.offerNow work with
    | (.done result, world) =>
      act ticket run steps (world.noteFor run (offerText "try" item result))
    | (.waiting, world) => act ticket run steps world
    | (.panicked payload, world) => world.finishRun ticket run (.panicked payload)
  | .noteLength :: steps, world =>
    act ticket run steps (world.noteFor run ("len=" ++ toString world.host.queue.len))
  | .stopHost :: steps, world =>
    act ticket run steps (if world.hostGone then world else world.stopHost)
  | .noteState :: steps, world =>
    act ticket run steps (world.noteFor run ("state=" ++ world.stateText))
  | .stopScheduler :: steps, world => act ticket run steps world.cancelScheduler
  | .noteRun :: steps, world => act ticket run steps (world.noteRun run)
  | step :: steps, world =>
    match run.perform world.now steps step with
    | .goes run note => act ticket run steps (world.noteIfAny run note)
    | .waits run note => (world.noteIfAny run note).park ticket run
    | .ends ending => world.finishRun ticket run ending

/-- Opens the scope and begins the action. -/
def beginRun (world : World) (ticket : Ticket) (run : ItemRun) : World :=
  let (start, journal) := run.work.item.start world.factory.create world.journal
  let world := world.keep journal
  match start with
  | .ended conclusion => world.endRun ticket run conclusion
  | .acting guard dependency => act ticket { run with guard, dependency } run.steps world

/-- Takes in what came of offering an item. -/
def continueOffer (ticket : Ticket) (run : ItemRun) (offered : WorkItem) : Offer × World → World
  | (.done result, world) =>
    act ticket (world.charge run) run.steps
      (world.noteFor run (offerText "queue" offered.item result))
  | (.waiting, world) => world.park ticket { run with wait := .place offered }
  | (.panicked payload, world) =>
    world.finishRun ticket { run with wait := .yielded } (.panicked payload)

/-- Goes on after a wait, if what was waited for has come. -/
def resumeRun (world : World) (ticket : Ticket) (run : ItemRun) : World :=
  match run.wait with
  | .fresh => world.beginRun ticket run
  | .turn offered => continueOffer ticket run offered (world.offer ticket offered)
  | .place offered =>
    continueOffer ticket run offered (world.resumeOffer ticket false offered)
  | _ =>
    match run.resume world.now with
    | some (run, note) => act ticket run run.steps (world.noteIfAny run note)
    | none => world

/-- One turn of the task. -/
def pollRun (world : World) (ticket : Ticket) (run : ItemRun) : World :=
  if run.aborting && !run.isBlocked then world.abortRun ticket run
  else world.resumeRun ticket run.renew

/-- Cancels the token of an item and aborts it. -/
def orderAbort (world : World) (ticket : Ticket) : World :=
  match world.task? ticket with
  | some (.run run) =>
    let world := world.setTask ticket (.run { run with cancelled := true, aborting := true })
    if run.isBlocked then world else world.wake ticket
  | _ => world

/-- Ends what a thread is blocked by. -/
def release (world : World) (ticket : Ticket) : World :=
  match world.task? ticket with
  | some (.run run) =>
    if run.isBlocked then
      let world := world.noteFor run ("released, cancelled=" ++ toString run.cancelled)
      act ticket { run with wait := .yielded } run.steps world
    else world
  | _ => world

/-- Ends what all threads are blocked by. -/
def releaseAll (world : World) : World :=
  world.tasks.foldl (fun world entry => world.release entry.1) world

end WorkHost.World
