import WorkHost.Scope.Container

/-!
Contract: where scopes come from.

Scopes are made by a service container or by a provider of its own behaviour.
-/

namespace WorkHost

/-- How a provider that is not a container behaves. -/
inductive ProviderMode where
  /-- No scope can be opened. -/
  | unavailable
  /-- Resolving gives an instance of a type that was not asked for. -/
  | mistaken
  /-- Only one type can be resolved. -/
  | single (type : ServiceType)
  /-- Resolving panics. -/
  | exploding
  /-- Nothing can be resolved. -/
  | barren
deriving DecidableEq, Repr

inductive ScopeFactory where
  | container (container : Container)
  | provider (mode : ProviderMode)
deriving DecidableEq, Repr

inductive OpenScope where
  | container (scope : ContainerScope)
  | provided (mode : ProviderMode) (serial : Nat)
deriving DecidableEq, Repr

namespace ScopeFactory

def unavailable : Failure := .scope "scope provider unavailable"

/-- Opens a scope. Only containers report that they did. -/
def create (factory : ScopeFactory) (journal : Journal) : Opening OpenScope × Journal :=
  match factory with
  | .container registry =>
    (.opened (.container (.ofContainer registry)), journal.report ContainerScope.scopeCreated)
  | .provider .unavailable => (.refused unavailable, journal)
  | .provider mode =>
    let serial := journal.nextSerial
    (.opened (.provided mode serial), journal.advance.write ("open scope " ++ toString serial))

end ScopeFactory

namespace OpenScope

/-- A type that differs from any that is asked for. -/
def strangeType (type : ServiceType) : ServiceType :=
  ⟨type.name ++ "'", type.label ++ "'"⟩

def resolveAny (scope : OpenScope) (type : ServiceType) (journal : Journal) :
    Resolution × OpenScope × Journal :=
  match scope with
  | .container inner =>
    let (resolution, inner, journal) := inner.resolveAny type journal
    (resolution, .container inner, journal)
  | .provided mode serial =>
    let resolution : Resolution :=
      match mode with
      | .mistaken => .resolved ⟨strangeType type, serial, []⟩
      | .single only =>
        if only = type then .resolved ⟨only, serial, []⟩ else .failed (.resolve type.name)
      | .exploding => .panicked (.text ("resolver exploded on " ++ type.name)) []
      | .unavailable | .barren => .failed (.resolve type.name)
    (resolution, scope, journal)

/-- Disposes the scope; gives the panic of a hook. -/
def dispose (scope : OpenScope) (journal : Journal) : Option Payload × Journal :=
  match scope with
  | .container inner => ServiceScope.dispose inner journal
  | .provided _ serial => (none, journal.write ("dispose scope " ++ toString serial))

instance : ServiceScope OpenScope Journal := ⟨resolveAny, dispose⟩

end OpenScope

end WorkHost
