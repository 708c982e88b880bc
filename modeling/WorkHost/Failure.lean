/-!
Contract: the failures that the library reports, each by its cause.

`Failure.message` is the one place where their wording is fixed.
-/

namespace WorkHost

/-- What can go wrong in queueing, resolving, configuring and scheduling. -/
inductive Failure where
  /-- The buffer has no free place and the caller does not wait. -/
  | queueFull (capacity : Nat)
  /-- The worker has stopped taking items. -/
  | queueClosed
  /-- The caller's token fired before a place became free. -/
  | enqueueCancelled
  /-- No constructor is registered for the type. -/
  | resolve (typeName : String)
  | scope (reason : String)
  | config (reason : String)
  | schedule (job reason : String)
  | io (reason : String)
  | other (text : String)
deriving DecidableEq, Repr, Inhabited

def Failure.message : Failure → String
  | .queueFull capacity => s!"task queue is full (capacity {capacity})"
  | .queueClosed => "task queue is closed"
  | .enqueueCancelled => "enqueue cancelled while waiting for capacity"
  | .resolve typeName => "no scoped registration for " ++ typeName
  | .scope reason => "scope error: " ++ reason
  | .config reason => "config error: " ++ reason
  | .schedule job reason => "bad schedule for job " ++ job ++ ": " ++ reason
  | .io reason => "io error: " ++ reason
  | .other text => text

/-- The name of the kind of failure. -/
def Failure.kind : Failure → String
  | .queueFull _ => "QueueFull"
  | .queueClosed => "QueueClosed"
  | .enqueueCancelled => "EnqueueCancelled"
  | .resolve _ => "Resolve"
  | .scope _ => "Scope"
  | .config _ => "Config"
  | .schedule _ _ => "Schedule"
  | .io _ => "Io"
  | .other _ => "Other"

/-- A text with the contexts it was wrapped in, outermost first. -/
def Failure.chain (root : String) (contexts : List String) : String :=
  contexts.foldl (fun text context => context ++ ": " ++ text) root

/-- The text of what caused the failure, if that is a failure of its own. -/
def Failure.cause? : Failure → Option String
  | .io reason => some reason
  | _ => none

/-- The message with that of its cause, outermost first. -/
def Failure.trace (failure : Failure) : String :=
  match failure.cause? with
  | some cause => chain cause [failure.message]
  | none => failure.message

end WorkHost
