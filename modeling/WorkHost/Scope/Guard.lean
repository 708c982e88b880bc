import WorkHost.Failure
import WorkHost.Scope.Service

/-!
Contract: what every scope can do, and the guard of an open scope.

A scope resolves types and is disposed. What it shares with everything else is a state
that each of its operations may change. Whoever opens a scope holds it in a guard: the
guard takes the scope out before it disposes it, so that nothing is disposed twice.
-/

namespace WorkHost

/-- How resolving a type comes out. -/
inductive Resolution where
  | resolved (held : Instance)
  | failed (failure : Failure)
  /-- A constructor panicked while these types were under construction. -/
  | panicked (payload : Payload) (underConstruction : List ServiceType)
deriving DecidableEq, Repr

namespace Resolution

def wrongType (type : ServiceType) : Failure :=
  .scope ("scope returned the wrong type for " ++ type.name)

/-- An instance has to be of the type that was asked for. -/
def ofType (type : ServiceType) : Resolution → Resolution
  | .resolved held => if held.type = type then .resolved held else .failed (wrongType type)
  | other => other

end Resolution

/-- A scope, with the state that it shares with everything else. -/
class ServiceScope (σ τ : Type) where
  /-- Gives an instance of the type, or of another one. -/
  resolveAny : σ → ServiceType → τ → Resolution × σ × τ
  /-- Releases what the scope holds; gives the panic of a hook. -/
  dispose : σ → τ → Option Payload × τ

/-- How opening a scope comes out. -/
inductive Opening (σ : Type) where
  | opened (scope : σ)
  | refused (failure : Failure)
  | panicked (payload : Payload)
deriving DecidableEq, Repr

/-- Holds a scope until it is disposed. -/
structure ScopeGuard (σ : Type) where
  scope : Option σ
deriving DecidableEq, Repr

namespace ScopeGuard

variable {σ τ : Type}

def ofScope (scope : σ) : ScopeGuard σ := ⟨some scope⟩

/-- Opens a scope and guards it. -/
def openWith (create : τ → Opening σ × τ) (state : τ) : Opening (ScopeGuard σ) × τ :=
  match create state with
  | (.opened scope, state) => (.opened (ofScope scope), state)
  | (.refused failure, state) => (.refused failure, state)
  | (.panicked payload, state) => (.panicked payload, state)

def afterDispose (type : ServiceType) : Failure :=
  .scope ("resolve of " ++ type.name ++ " after dispose")

variable [ServiceScope σ τ]

def resolve (guard : ScopeGuard σ) (type : ServiceType) (state : τ) :
    Resolution × ScopeGuard σ × τ :=
  match guard.scope with
  | none => (.failed (afterDispose type), guard, state)
  | some scope =>
    let (resolution, scope, state) := ServiceScope.resolveAny scope type state
    (resolution.ofType type, ofScope scope, state)

/-- Disposes the scope if it has not been disposed yet. -/
def disposeOnce (guard : ScopeGuard σ) (state : τ) : Option Payload × ScopeGuard σ × τ :=
  match guard.scope with
  | none => (none, guard, state)
  | some scope =>
    let (panic, state) := ServiceScope.dispose scope state
    (panic, ⟨none⟩, state)

/-- What happens to the scope when the guard goes away. -/
def drop (guard : ScopeGuard σ) (state : τ) : Option Payload × τ :=
  let (panic, _, state) := guard.disposeOnce state
  (panic, state)

end ScopeGuard

end WorkHost
