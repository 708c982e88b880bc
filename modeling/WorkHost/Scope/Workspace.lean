import WorkHost.Scope.Factory

/-!
Contract: several containers and scopes side by side.

Containers and scopes are numbered as they are made. A guarded scope is disposed when
it is closed or dropped; a bare scope is disposed on request, any number of times, and
is dropped without running hooks. Each scope works with the registrations of the
moment it was opened.
-/

namespace WorkHost

/-- A scope as its owner holds it. -/
inductive ScopeSlot where
  | guarded (guard : ScopeGuard OpenScope)
  | bare (scope : ContainerScope)
  /-- Closed or dropped. -/
  | gone
deriving DecidableEq, Repr

structure Workspace where
  containers : List Container
  slots : List ScopeSlot
  nextSerial : Nat
deriving DecidableEq, Repr

inductive WorkspaceOp where
  | openGuarded (container : Nat)
  | openBare (container : Nat)
  | openProvided (mode : ProviderMode)
  | resolve (scope : Nat) (type : ServiceType)
  | close (scope : Nat)
  | drop (scope : Nat)
  | disposeBare (scope : Nat)
  | register (container : Nat) (service : Service)
  | clone (container : Nat)
  | isRegistered (container : Nat) (type : ServiceType)
deriving DecidableEq, Repr

inductive WorkspaceAnswer where
  /-- The number of a new scope or container. -/
  | number (value : Nat)
  | failed (failure : Failure)
  | held (value : Instance)
  | closed
  | gone
  | dropped
  | disposed
  | registered
  | flag (value : Bool)
  | panicked (message : String)
  /-- The operation names something by a number, but only so many were made. -/
  | unknown (made number : Nat)
  | ended
deriving DecidableEq, Repr

namespace Workspace

def ofServices (services : List Service) : Workspace :=
  ⟨[.ofServices services], [], 0⟩

def addSlot (workspace : Workspace) (slot : ScopeSlot) : WorkspaceAnswer × Workspace :=
  (.number workspace.slots.length, { workspace with slots := workspace.slots ++ [slot] })

def setSlot (workspace : Workspace) (scope : Nat) (slot : ScopeSlot) : Workspace :=
  { workspace with slots := workspace.slots.set scope slot }

/-- Runs an action on the journal; gives the lines written during it. -/
def journal (workspace : Workspace) : Journal := .ofSerial workspace.nextSerial

def keep (workspace : Workspace) (journal : Journal) : Workspace :=
  { workspace with nextSerial := journal.nextSerial }

/-- The answer to an operation that disposes a scope. -/
def afterDisposal (payload : Option Payload) (answer : WorkspaceAnswer) : WorkspaceAnswer :=
  match payload with
  | some payload => .panicked payload.message
  | none => answer

def resolutionAnswer : Resolution → WorkspaceAnswer
  | .resolved held => .held held
  | .failed failure => .failed failure
  | .panicked payload _ => .panicked payload.message

def noScope (workspace : Workspace) (scope : Nat) : WorkspaceAnswer :=
  .unknown workspace.slots.length scope

def noContainer (workspace : Workspace) (container : Nat) : WorkspaceAnswer :=
  .unknown workspace.containers.length container

/-- Releases a slot: a guarded scope is disposed. -/
def release (workspace : Workspace) (scope : Nat) (answer : WorkspaceAnswer) :
    WorkspaceAnswer × List String × Workspace :=
  match workspace.slots[scope]? with
  | some (.guarded guard) =>
    let (payload, journal) := guard.drop workspace.journal
    (afterDisposal payload answer, journal.lines,
      (workspace.keep journal).setSlot scope .gone)
  | some _ => (answer, [], workspace.setSlot scope .gone)
  | none => (workspace.noScope scope, [], workspace)

/-- Performs an operation; gives its answer and the lines logged during it. -/
def perform (workspace : Workspace) (op : WorkspaceOp) :
    WorkspaceAnswer × List String × Workspace :=
  let plain (result : WorkspaceAnswer × Workspace) := (result.1, [], result.2)
  match op with
  | .openGuarded container =>
    match workspace.containers[container]? with
    | some container =>
      plain (workspace.addSlot (.guarded (.ofScope (.container (.ofContainer container)))))
    | none => (workspace.noContainer container, [], workspace)
  | .openBare container =>
    match workspace.containers[container]? with
    | some container => plain (workspace.addSlot (.bare (.ofContainer container)))
    | none => (workspace.noContainer container, [], workspace)
  | .openProvided mode =>
    match ScopeGuard.openWith (ScopeFactory.provider mode).create workspace.journal with
    | (.opened guard, journal) =>
      let (answer, workspace) := (workspace.keep journal).addSlot (.guarded guard)
      (answer, journal.lines, workspace)
    | (.refused failure, journal) => (.failed failure, journal.lines, workspace.keep journal)
    | (.panicked payload, journal) =>
      (.panicked payload.message, journal.lines, workspace.keep journal)
  | .resolve scope type =>
    match workspace.slots[scope]? with
    | some (.guarded guard) =>
      let (resolution, guard, journal) := guard.resolve type workspace.journal
      (resolutionAnswer resolution, journal.lines,
        (workspace.keep journal).setSlot scope (.guarded guard))
    | some (.bare bare) =>
      let (resolution, bare, journal) := bare.resolve type workspace.journal
      (resolutionAnswer resolution, journal.lines,
        (workspace.keep journal).setSlot scope (.bare bare))
    | some .gone => (.gone, [], workspace)
    | none => (workspace.noScope scope, [], workspace)
  | .close scope =>
    match workspace.slots[scope]? with
    | some (.guarded _) => workspace.release scope .closed
    | some _ => workspace.release scope .gone
    | none => (workspace.noScope scope, [], workspace)
  | .drop scope => workspace.release scope .dropped
  | .disposeBare scope =>
    match workspace.slots[scope]? with
    | some (.bare bare) =>
      let (payload, bare, journal) := bare.dispose workspace.journal
      (afterDisposal payload .disposed, journal.lines,
        (workspace.keep journal).setSlot scope (.bare bare))
    | some _ => (.disposed, [], workspace)
    | none => (workspace.noScope scope, [], workspace)
  | .register container service =>
    match workspace.containers[container]? with
    | some target =>
      (.registered, [], { workspace with
        containers := workspace.containers.set container (target.register service) })
    | none => (workspace.noContainer container, [], workspace)
  | .clone container =>
    match workspace.containers[container]? with
    | some source =>
      (.number workspace.containers.length, [],
        { workspace with containers := workspace.containers ++ [source] })
    | none => (workspace.noContainer container, [], workspace)
  | .isRegistered container type =>
    match workspace.containers[container]? with
    | some container => (.flag (container.isRegistered type), [], workspace)
    | none => (workspace.noContainer container, [], workspace)

/-- Performs operations in order; gives the answer and lines of each. -/
def performAll (workspace : Workspace) :
    List WorkspaceOp → List (WorkspaceAnswer × List String) × Workspace
  | [] => ([], workspace)
  | op :: rest =>
    let (answer, lines, workspace) := workspace.perform op
    let (answers, workspace) := performAll workspace rest
    ((answer, lines) :: answers, workspace)

/-- Releases the given slots in order. -/
def releaseAll (workspace : Workspace) : List Nat → List (WorkspaceAnswer × List String)
  | [] => []
  | scope :: rest =>
    let (answer, lines, workspace) := workspace.release scope .ended
    (answer, lines) :: releaseAll workspace rest

/-- Performs operations in order and releases all scopes at the end. -/
def run (workspace : Workspace) (ops : List WorkspaceOp) :
    List (WorkspaceAnswer × List String) :=
  let (answers, workspace) := workspace.performAll ops
  answers ++ workspace.releaseAll (List.range workspace.slots.length)

end Workspace

end WorkHost
