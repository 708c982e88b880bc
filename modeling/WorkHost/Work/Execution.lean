import WorkHost.Scope.Guard
import WorkHost.Work.Item

/-!
Contract: the execution of a single item, apart from the steps of its action.

A scoped item opens a scope and resolves its service before its action starts
(`Item.start`). However the task ends, what the action has captured is destroyed and
then the scope is disposed: it is closed after the action (`Item.finish`), or dropped with
its guard when the action never starts (`Item.leave`), panics or is aborted
(`Item.abort`). A destructor that panics turns the end into a panic; one that panics
while a panic is already under way takes the process down.
-/

namespace WorkHost

/-- How an action ends by itself. -/
inductive Ending where
  | returned
  | failed (reason : String)
  | panicked (payload : Payload)
deriving DecidableEq, Repr

/-- How the task of an item ends. -/
inductive Conclusion where
  | completed
  | failed (reason : String)
  | panicked (message : String)
  | aborted
  /-- Two panics at once: the whole process ends. -/
  | crashed
deriving DecidableEq, Repr

/-- Whether a panic is under way while destructors run. -/
inductive Unwinding where
  | calm
  | panicking (payload : Payload)
  | crashed
deriving DecidableEq, Repr

namespace Unwinding

/-- A destructor has run; `panic` is what it panicked with. -/
def after (state : Unwinding) (panic : Option Payload) : Unwinding :=
  match state, panic with
  | state, none => state
  | .calm, some payload => .panicking payload
  | .panicking _, some _ => .crashed
  | .crashed, some _ => .crashed

def isCrashed : Unwinding → Bool
  | .crashed => true
  | _ => false

end Unwinding

/-- The destruction of an item's state, so far. -/
structure Release (τ : Type) where
  unwinding : Unwinding
  state : τ
deriving DecidableEq, Repr

namespace Item

/-- Destroys what the action has captured; gives the panic of its destructor. -/
def drop {τ : Type} [Logbook τ] (item : Item) (state : τ) : Option Payload × τ :=
  let dropped := Logbook.write state (item.label ++ ": dropped")
  match item.keepsake with
  | .silent => (none, state)
  | .logged => (none, dropped)
  | .panicking => (some (.text (item.label ++ " panicked in drop")), dropped)

end Item

namespace Release

variable {σ τ : Type}

/-- Runs a destructor, unless the process has ended. -/
def run (release : Release τ) (destroy : τ → Option Payload × τ) : Release τ :=
  if release.unwinding.isCrashed then release
  else
    let (panic, state) := destroy release.state
    ⟨release.unwinding.after panic, state⟩

def dropItem [Logbook τ] (release : Release τ) (item : Item) : Release τ :=
  release.run item.drop

def dropGuard [ServiceScope σ τ] (release : Release τ) (guard : ScopeGuard σ) : Release τ :=
  release.run guard.drop

/-- Disposes the scope; the guard goes away afterwards, also if a hook panics. -/
def closeGuard [ServiceScope σ τ] (release : Release τ) (guard : ScopeGuard σ) : Release τ :=
  let (panic, guard, state) := guard.disposeOnce release.state
  (⟨release.unwinding.after panic, state⟩ : Release τ).dropGuard guard

/-- After the action the guard is closed, unless a panic is under way. -/
def leaveGuard [ServiceScope σ τ] (release : Release τ) (guard : ScopeGuard σ) : Release τ :=
  match release.unwinding with
  | .calm => release.closeGuard guard
  | _ => release.dropGuard guard

/-- Destroys captured state and then the guard of the scope, if there is one. -/
def dropAll [Logbook τ] [ServiceScope σ τ] (release : Release τ) (items : List Item)
    (guard : Option (ScopeGuard σ)) : Release τ :=
  let release := items.foldl dropItem release
  guard.elim release release.dropGuard

end Release

namespace Ending

def unwinding : Ending → Unwinding
  | .panicked payload => .panicking payload
  | _ => .calm

/-- The end of the task, given how the destructors came out. -/
def conclude (ending : Ending) : Unwinding → Conclusion
  | .crashed => .crashed
  | .panicking payload => .panicked payload.message
  | .calm =>
    match ending with
    | .returned => .completed
    | .failed reason => .failed reason
    | .panicked payload => .panicked payload.message

end Ending

/-- The state of an item's task once it has been started. -/
inductive Start (σ : Type) where
  /-- It ended before the first step of its action. -/
  | ended (conclusion : Conclusion)
  | acting (guard : Option (ScopeGuard σ)) (dependency : Option Instance)
deriving DecidableEq, Repr

namespace Item

variable {σ τ : Type} [Logbook τ] [ServiceScope σ τ]

/-- Ends the task before the first step of its action. -/
def leave (item : Item) (guard : Option (ScopeGuard σ)) (ending : Ending) (state : τ) :
    Conclusion × τ :=
  let release : Release τ := ⟨ending.unwinding, state⟩
  let release := release.dropAll [item] guard
  (ending.conclude release.unwinding, release.state)

/-- Ends the task after its action has ended by itself. -/
def finish (item : Item) (guard : Option (ScopeGuard σ)) (ending : Ending) (state : τ) :
    Conclusion × τ :=
  let release : Release τ := ⟨ending.unwinding, state⟩
  let release := release.dropItem item
  let release := guard.elim release release.leaveGuard
  (ending.conclude release.unwinding, release.state)

/-- Ends the task at a point where its action waits; `offered` is an item that it was
enqueueing. A panic of a destructor is lost. -/
def abort (item : Item) (guard : Option (ScopeGuard σ)) (offered : Option Item) (state : τ) :
    Conclusion × τ :=
  let release : Release τ := ⟨.calm, state⟩
  let release := release.dropAll (offered.toList ++ [item]) guard
  (if release.unwinding.isCrashed then .crashed else .aborted, release.state)

/-- Calls the action, which may panic before its first step. -/
def act (item : Item) (guard : Option (ScopeGuard σ)) (dependency : Option Instance)
    (state : τ) : Start σ × τ :=
  match item.panicEarly with
  | none => (.acting guard dependency, state)
  | some text =>
    let (conclusion, state) := item.leave guard (.panicked (.text text)) state
    (.ended conclusion, state)

/-- Resolves the service in the scope that was opened for it, and calls the action. -/
def enter (item : Item) (guard : ScopeGuard σ) (type : ServiceType) (state : τ) : Start σ × τ :=
  match guard.resolve type state with
  | (.resolved held, guard, state) => item.act (some guard) (some held) state
  | (.failed failure, guard, state) =>
    let (conclusion, state) := item.leave (some guard) (.failed failure.trace) state
    (.ended conclusion, state)
  | (.panicked payload _, guard, state) =>
    let (conclusion, state) := item.leave (some guard) (.panicked payload) state
    (.ended conclusion, state)

/-- Starts the task: opens the scope of a scoped item, and calls the action. -/
def start (item : Item) (create : τ → Opening σ × τ) (state : τ) : Start σ × τ :=
  match item.dependency with
  | none => item.act none none state
  | some type =>
    match ScopeGuard.openWith create state with
    | (.opened guard, state) => item.enter guard type state
    | (.refused failure, state) =>
      let (conclusion, state) :=
        item.leave (none : Option (ScopeGuard σ)) (.failed failure.trace) state
      (.ended conclusion, state)
    | (.panicked payload, state) =>
      let (conclusion, state) :=
        item.leave (none : Option (ScopeGuard σ)) (.panicked payload) state
      (.ended conclusion, state)

end Item

end WorkHost
