import WorkHost.Simulation.Script

/-!
Contract: a host whose work comes from a scheduler.

The scheduler runs until no job has a time left or until it is cancelled; if it can
only wait for good, it is cancelled. Then some time passes, and the host is shut down.
-/

namespace WorkHost

/-- A job with the work that it enqueues. -/
structure TimetableEntry where
  job : Cron.Job
  type : ServiceType
  steps : List Step

namespace TimetableEntry

/-- Every run is noted before the steps of the job. -/
def item (entry : TimetableEntry) : Item :=
  .mk entry.job.name (some entry.type) (.noteRun :: entry.steps) .silent none

end TimetableEntry

/-- What a run of a timetable shows. -/
structure TimetableResult where
  /-- Whether the scheduler ended without being cancelled for standing still. -/
  endedByItself : Bool
  /-- The length of the queue after the time that passed. -/
  depth : Nat
  script : Script

namespace Script

/-- Adds a scheduler with a handle of its own. -/
def addScheduler (script : Script) (entries : List TimetableEntry) (stopAfter : Option Nat)
    (cancelled : Bool) : Script :=
  let firing : Firing :=
    ⟨.create (entries.map TimetableEntry.job), entries.map TimetableEntry.item, cancelled,
      none, none⟩
  let world := { script.world with firing := some firing, stopAfter }
  script.setWorld (world.addHandle.wake World.schedulerTicket)

def awaitScheduler (world : World) : Option Unit × World :=
  world.await
    (fun world =>
      (if world.firing.all (·.scheduler.hasEnded) then some () else none, world))
    none

def hourMs : Nat := 3600000

/-- Runs the scheduler to its end and shuts the host down. -/
def runTimetable (script : Script) (entries : List TimetableEntry) (stopAfter : Option Nat)
    (cancelled : Bool) : TimetableResult :=
  let script := script.addScheduler entries stopAfter cancelled
  let (ended, world) := awaitScheduler script.world
  let world := if ended.isSome then world else (awaitScheduler world.cancelScheduler).2
  let world := (world.sleep hourMs).settle
  let depth := world.host.queue.len
  let script := (script.setWorld world).loseHandle
  let (_, script) := script.turn .shutdown
  ⟨ended.isSome, depth, script⟩

end Script

end WorkHost
