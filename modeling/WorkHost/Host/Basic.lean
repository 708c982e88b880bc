import WorkHost.Host.Worker

/-!
Contract: the host, which is a task queue and the worker that consumes it.

The host changes in small steps: producers use the queue, a stop is requested, the
item in flight ends, and the worker makes a step. They may come in any order, and
every run of a host is a sequence of them.
-/

namespace WorkHost

structure Host (α : Type) where
  queue : TaskQueue α
  worker : Worker α
  /-- Whether a stop was requested. -/
  stopping : Bool
  /-- How long the item in flight may run after a stop was requested. -/
  graceMs : Nat
  /-- How the item in flight ended, once it has. -/
  ended : Option ExecutionResult
deriving DecidableEq, Repr

/-- The effect of a step of the worker. -/
structure HostStride (α : Type) where
  host : Host α
  reports : List Report
  command : Option (Command α)
  /-- Producers that have been given a place or turned away. -/
  woken : List Ticket
deriving DecidableEq, Repr

namespace Host

variable {α : Type} [Queued α]

def create (config : QueueConfig) : Host α :=
  ⟨.create config, .create, false, config.shutdownTimeoutMs, none⟩

def requestStop (host : Host α) : Host α := { host with stopping := true }

/-- The item in flight has ended. -/
def concludeFlight (host : Host α) (result : ExecutionResult) : Host α :=
  { host with ended := some result }

/-- The destructor of a discarded item panicked: the worker is gone, and with it
everything that was buffered. -/
def abandon (host : Host α) (message : String) : Host α :=
  { host with
    worker := { host.worker with phase := .dead message }
    queue := { host.queue with channel := { host.queue.channel with buffer := [] } } }

/-- Whether the worker waits for an item. -/
def awaitsItem (host : Host α) : Bool :=
  match host.worker.phase with
  | .dequeuing => true
  | _ => false

/-- Whether the worker waits for the end of the item in flight. -/
def awaitsFlight (host : Host α) : Bool :=
  match host.worker.phase with
  | .executing _ | .draining .. | .aborting .. => true
  | _ => false

/-- Whether a request to stop is what the worker waits for, among other things. -/
def awaitsStop (host : Host α) : Bool :=
  match host.worker.phase with
  | .dequeuing | .executing _ => true
  | _ => false

def surroundings (host : Host α) (now : Nat) : Surroundings :=
  ⟨now, host.graceMs, host.stopping, host.ended⟩

/-- One step of the worker; nothing if it has to wait or has ended. -/
def step (now : Nat) (host : Host α) : Option (HostStride α) :=
  (host.worker.step (host.surroundings now) host.queue.channel).map fun stride =>
    let ended :=
      match stride.command with
      | some (.execute _) => none
      | _ => host.ended
    { host := { host with
        worker := stride.worker
        queue := { host.queue with channel := stride.channel }
        ended }
      reports := stride.reports
      command := stride.command
      woken := stride.woken }

end Host

end WorkHost
