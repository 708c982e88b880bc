import WorkHost.Calendar.Timestamp
import WorkHost.Queue.TaskQueue
import WorkHost.Scope.Service
import WorkHost.Telemetry.Report
import WorkHost.Text.Quoted

/-!
Contract: work items, the deferred units of work.

An item is unscoped, or it asks for a service that is resolved from a scope of its
own. Its action is a list of steps. The action may hold a value whose destruction is
noticed (`Keepsake`): it is destroyed exactly once, when the action ends in any way or
is never run.
-/

namespace WorkHost

/-- What the destruction of an action's captured state does. -/
inductive Keepsake where
  | silent
  /-- Logs that it was dropped. -/
  | logged
  /-- Logs that it was dropped and then panics. -/
  | panicking
deriving DecidableEq, Repr

mutual

/-- One step of an action. -/
inductive Step where
  | log (text : String)
  | sleep (milliseconds : Nat)
  /-- Lets everything that is ready go first. -/
  | yield
  /-- Never ends. -/
  | hang
  /-- Blocks its thread until it is released, so that nothing can interrupt it. -/
  | block
  | fail (root : String) (contexts : List String)
  | panic (payload : Payload)
  /-- Logs the resolved service. -/
  | noteDependency
  | cancelSelf
  /-- Logs whether the item's token is cancelled. -/
  | noteCancelled
  | awaitCancelled
  /-- Enqueues an item, waiting for a place if the policy says so. -/
  | enqueue (item : Item)
  | tryEnqueue (item : Item)
  /-- Logs the length of the queue. -/
  | noteLength
  | stopHost
  /-- Logs the state of the worker. -/
  | noteState
  | stopScheduler
  /-- Logs the number of a scheduled run and the service it got. -/
  | noteRun

inductive Item where
  | mk (label : String) (dependency : Option ServiceType) (steps : List Step)
    (keepsake : Keepsake) (panicEarly : Option String)

end

instance : Inhabited Item := ⟨.mk "" none [] .silent none⟩

/-- Whether the step uses the queue. -/
def Step.needsQueue : Step → Bool
  | .enqueue _ | .tryEnqueue _ | .noteLength => true
  | _ => false

namespace Item

def label : Item → String
  | .mk label .. => label

def dependency : Item → Option ServiceType
  | .mk _ dependency .. => dependency

def steps : Item → List Step
  | .mk _ _ steps .. => steps

def keepsake : Item → Keepsake
  | .mk _ _ _ keepsake _ => keepsake

/-- The text with which the action panics before its first step. -/
def panicEarly : Item → Option String
  | .mk _ _ _ _ panicEarly => panicEarly

def kind (item : Item) : WorkKind :=
  match item.dependency with
  | none => .unscoped
  | some _ => .scoped

/-- Whether the action holds a handle of the queue. -/
def holdsHandle (item : Item) : Bool := item.steps.any Step.needsQueue

end Item

/-- An item with its identifier and the time at which it was made. -/
structure WorkItem where
  id : WorkId
  enqueuedAt : Calendar.Instant
  item : Item

namespace WorkItem

def kind (work : WorkItem) : WorkKind := work.item.kind

/-- The name of the service that a scoped item asks for. -/
def dependencyName (work : WorkItem) : Option String :=
  work.item.dependency.map ServiceType.name

instance : Queued WorkItem where
  id := WorkItem.id
  kind := WorkItem.kind
  dependency := WorkItem.dependencyName

/-- The item as it is shown for diagnosis. -/
def description (work : WorkItem) : String :=
  let dependency :=
    match work.dependencyName with
    | none => "None"
    | some name => "Some(" ++ Text.quoted name ++ ")"
  "WorkItem \x7b id: WorkId(" ++ work.id.text ++ "), kind: " ++ Text.quoted work.kind.text
    ++ ", dependency: " ++ dependency ++ ", enqueued_at: "
    ++ Calendar.Timestamp.write work.enqueuedAt ++ " \x7d"

end WorkItem

end WorkHost
