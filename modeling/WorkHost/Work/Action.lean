import WorkHost.Scope.Factory
import WorkHost.Work.Execution

/-!
Contract: the action of an item, step by step.

An item that is being executed performs the steps of its action until it waits or ends.
What a step does and when a wait is over are said here for everything that the item can
do without others (`ItemRun.perform`, `ItemRun.resume`). Steps that use the queue, the
host or the scheduler are left to whoever has those.
-/

namespace WorkHost

/-- What an item that is being executed waits for. -/
inductive RunWait where
  /-- It has not begun. -/
  | fresh
  /-- Everything that is ready goes first. -/
  | yielded
  | clock (deadline : Nat)
  | forever
  /-- The cancellation of its own token. -/
  | cancellation
  /-- Everything that is ready goes first, then it offers an item to the queue. -/
  | turn (offered : WorkItem)
  /-- A place in the queue for an item. -/
  | place (offered : WorkItem)
  /-- Its thread is blocked until it is released. -/
  | release

/-- An item that is being executed. -/
structure ItemRun where
  work : WorkItem
  guard : Option (ScopeGuard OpenScope)
  dependency : Option Instance
  /-- The steps that are still to be made. -/
  steps : List Step
  wait : RunWait
  /-- Whether its token is cancelled. -/
  cancelled : Bool
  /-- Whether it ends at the next point where it waits. -/
  aborting : Bool
  /-- How many more operations that may wait it can complete in its turn. -/
  credit : Nat

/-- What a step of an action comes to; `note` is what it logs. -/
inductive Stepping where
  /-- The next step follows. -/
  | goes (run : ItemRun) (note : Option String)
  | waits (run : ItemRun) (note : Option String)
  | ends (ending : Ending)

namespace ItemRun

/-- How many operations that may wait are completed in one turn. -/
def turnLimit : Nat := 128

def ofWork (work : WorkItem) : ItemRun :=
  ⟨work, none, none, work.item.steps, .fresh, false, false, turnLimit⟩

/-- A new turn begins. -/
def renew (run : ItemRun) : ItemRun := { run with credit := turnLimit }

/-- An operation that may wait is completed. -/
def spend (run : ItemRun) : ItemRun := { run with credit := run.credit - 1 }

def label (run : ItemRun) : String := run.work.item.label

/-- A blocked thread notices nothing. -/
def isBlocked (run : ItemRun) : Bool :=
  match run.wait with
  | .release => true
  | _ => false

/-- The item that it is enqueueing. -/
def offered (run : ItemRun) : Option WorkItem :=
  match run.wait with
  | .turn offered | .place offered => some offered
  | _ => none

def dependencyText : Option Instance → String
  | some held => held.text
  | none => "no dep"

def blockingText : Option Instance → String
  | some held => "blocking, dep Some(" ++ toString held.serial ++ ")"
  | none => "blocking, dep None"

def sawCancel : String := "saw cancel"

/-- Performs a step that concerns only the item; `rest` are the steps after it. A step
that uses what others use leaves the item as it is. -/
def perform (run : ItemRun) (now : Nat) (rest : List Step) : Step → Stepping
  | .log text => .goes run (some text)
  | .sleep 0 =>
    if run.credit = 0 then .waits { run with steps := .sleep 0 :: rest, wait := .yielded } none
    else .goes run.spend none
  | .sleep milliseconds =>
    .waits { run with steps := rest, wait := .clock (now + milliseconds) } none
  | .yield => .waits { run with steps := rest, wait := .yielded } none
  | .hang => .waits { run with steps := rest, wait := .forever } none
  | .block =>
    .waits { run with steps := rest, wait := .release } (some (blockingText run.dependency))
  | .fail root contexts => .ends (.failed (Failure.chain root contexts))
  | .panic payload => .ends (.panicked payload)
  | .noteDependency =>
    let text :=
      match run.dependency with
      | some held => "dep " ++ held.text
      | none => dependencyText none
    .goes run (some text)
  | .cancelSelf => .goes { run with cancelled := true } none
  | .noteCancelled => .goes run (some ("cancelled=" ++ toString run.cancelled))
  | .awaitCancelled =>
    if run.cancelled then .goes run (some sawCancel)
    else .waits { run with steps := rest, wait := .cancellation } none
  | .enqueue _ | .tryEnqueue _ | .noteLength | .stopHost | .noteState | .stopScheduler
  | .noteRun => .goes run none

/-- Goes on after a wait that ends without others, if what was waited for has come. -/
def resume (run : ItemRun) (now : Nat) : Option (ItemRun × Option String) :=
  match run.wait with
  | .yielded => some (run, none)
  | .clock deadline => if deadline ≤ now then some (run.spend, none) else none
  | .cancellation => if run.cancelled then some (run, some sawCancel) else none
  | .fresh | .forever | .turn _ | .place _ | .release => none

end ItemRun

end WorkHost
