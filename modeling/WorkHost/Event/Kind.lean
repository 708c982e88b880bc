import WorkHost.Calendar.Instant
import WorkHost.Work.Id

/-!
Contract: what the worker reports while it runs.

Events carry a number that grows by one with each emission, so that a reader sees
where some are missing.
-/

namespace WorkHost

inductive EventKind where
  | workerStarted
  | workStarted (id : WorkId) (workKind : String) (dependency : Option String)
  | workCompleted (id : WorkId) (durationMs : Nat)
  | workFailed (id : WorkId) (error : String) (durationMs : Nat)
  | workPanicked (id : WorkId) (message : String)
  | drainStarted
  /-- The item in flight overran the shutdown timeout and was aborted. -/
  | forcedStop (id : WorkId)
  /-- How many items were dropped unstarted at shutdown. -/
  | workDiscarded (count : Nat)
  | workerStopped
deriving DecidableEq, Repr

structure Event where
  seq : Nat
  timestamp : Calendar.Instant
  kind : EventKind
deriving DecidableEq, Repr

end WorkHost
