/-!
Contract: the lifecycle of the worker.

A worker runs, may drain, and ends stopped. It never goes back:
`canTransition_rank` says that every allowed move is to a later state.
-/

namespace WorkHost

inductive WorkerState where
  /-- Takes items from the queue and executes them. -/
  | running
  /-- A stop was requested: the item in flight may finish, nothing new starts. -/
  | draining
  | stopped
deriving DecidableEq, Repr, Inhabited

namespace WorkerState

def canTransition : WorkerState → WorkerState → Bool
  | .running, .draining => true
  | .running, .stopped => true
  | .draining, .stopped => true
  | _, _ => false

def isTerminal : WorkerState → Bool
  | .stopped => true
  | _ => false

def text : WorkerState → String
  | .running => "running"
  | .draining => "draining"
  | .stopped => "stopped"

def ofText? : String → Option WorkerState
  | "running" => some .running
  | "draining" => some .draining
  | "stopped" => some .stopped
  | _ => none

/-- Position in the lifecycle. -/
def rank : WorkerState → Nat
  | .running => 0
  | .draining => 1
  | .stopped => 2

theorem ofText?_text (state : WorkerState) : ofText? state.text = some state := by
  cases state <;> rfl

theorem canTransition_iff_rank_lt (source target : WorkerState) :
    source.canTransition target = true ↔ source.rank < target.rank := by
  cases source <;> cases target <;> decide

end WorkerState

end WorkHost
