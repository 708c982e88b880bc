import WorkHost.Simulation.Turn

/-!
Contract: the execution of a single item without a worker.

Whoever started the item waits for its end, or drains it: after a grace period the
item is aborted, and one that does not even yield to that is left behind.
-/

namespace WorkHost

/-- How a single execution came out. -/
structure SoloResult where
  result : ExecutionResult
  kind : WorkKind
  /-- The name of the service it asked for. -/
  dependency : Option String
  /-- How many milliseconds passed. -/
  took : Nat
deriving DecidableEq, Repr

namespace World

/-- A world in which no worker will ever run. -/
def createIdle (clock : Calendar.Instant) (factory : ScopeFactory) : World :=
  { create clock factory .default (.create EventBus.defaultCapacity) with ready := [] }

/-- Starts an item on a task of its own. -/
def spawnItem (world : World) (item : Item) : Flight × World :=
  let (work, world) := world.makeWork item
  let flight := Flight.ofItem work world.now
  let world := world.emitReport flight.span
  let (ticket, world) := world.addTask (.run (.ofWork work))
  (flight, { world with flight := some ticket })

/-- Waits for the end of the item in flight. -/
def awaitFlight (world : World) (deadline : Option Nat) : Option ExecutionResult × World :=
  world.await (fun world => (world.host.ended, world)) deadline

/-- Gives the item in flight some time to end and aborts it then. -/
def drainFlight (world : World) (flight : Flight) (graceMs : Nat) : ExecutionResult × World :=
  match world.awaitFlight (some (world.now + graceMs)) with
  | (some result, world) => (result, world)
  | (none, world) =>
    let world := world.flight.elim world world.orderAbort
    match world.awaitFlight (some (world.now + abortGraceMs)) with
    | (some _, world) => (.aborted, world)
    | (none, world) => (.aborted, world.emitReport (Worker.leftBehind flight))

/-- Executes an item to its end, or drains it if a grace period is given. -/
def executeSolo (world : World) (item : Item) (graceMs : Option Nat) :
    Option SoloResult × World :=
  let (flight, world) := world.spawnItem item
  let (result, world) :=
    match graceMs with
    | none => world.awaitFlight none
    | some graceMs =>
      let (result, world) := world.drainFlight flight graceMs
      (some result, world)
  (result.map fun result =>
      ⟨result, flight.kind, flight.dependency, world.now - flight.startedAt⟩, world)

end World

end WorkHost
