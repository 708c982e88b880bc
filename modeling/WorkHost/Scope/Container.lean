import WorkHost.Scope.Guard

/-!
Contract: a scope of a service container.

A scope constructs a service at most once and hands out that instance from then on.
Constructors resolve further services from the same scope; a type that is resolved
while it is being constructed is a dependency cycle. A constructor that panics leaves
the types under construction marked as such. Disposal runs in the reverse order of
construction and is cut short by a hook that panics.
-/

namespace WorkHost

/-- What a scope has constructed. -/
structure Holdings where
  instances : List (ServiceType × Instance)
  /-- The types constructed and not yet disposed, the newest first. -/
  created : List ServiceType
deriving DecidableEq, Repr, Inhabited

namespace Holdings

def empty : Holdings := ⟨[], []⟩

def find? (holdings : Holdings) (type : ServiceType) : Option Instance :=
  (holdings.instances.find? (fun entry => entry.1 = type)).map Prod.snd

def add (holdings : Holdings) (type : ServiceType) (held : Instance) : Holdings :=
  ⟨(type, held) :: holdings.instances, type :: holdings.created⟩

def remove (holdings : Holdings) (type : ServiceType) : Holdings :=
  { holdings with instances := holdings.instances.filter fun entry => entry.1 ≠ type }

end Holdings

/-- How running a constructor comes out. -/
inductive Construction where
  | constructed (held : Instance)
  | failed (reason : String)
  | panicked (payload : Payload) (underConstruction : List ServiceType)
deriving DecidableEq, Repr

/-- What resolution reads and changes besides the types under construction. -/
structure Stock where
  holdings : Holdings
  journal : Journal
deriving DecidableEq, Repr, Inhabited

def Stock.write (stock : Stock) (line : String) : Stock :=
  { stock with journal := stock.journal.write line }

namespace Resolution

def cycle (type : ServiceType) : Failure :=
  .scope ("dependency cycle while resolving " ++ type.name)

def constructionFailed (type : ServiceType) (reason : String) : Failure :=
  .scope ("failed to construct " ++ type.name ++ ": " ++ reason)

/-- The types left under construction by a resolution that began with those of `stack`. -/
def underConstruction (stack : List ServiceType) : Resolution → List ServiceType
  | .panicked _ interrupted => interrupted
  | _ => stack

end Resolution

/-- Runs the steps of the constructor of `type`; `get` resolves other services and
`underConstruction` are the types being constructed, this one first. -/
def runSteps (get : ServiceType → Stock → Resolution × Stock) (type : ServiceType)
    (underConstruction : List ServiceType) :
    List BuildStep → List (ServiceType × Nat) → Stock → Construction × Stock
  | [], dependencies, stock =>
    let held : Instance := ⟨type, stock.journal.nextSerial, dependencies⟩
    (.constructed held,
      { stock with journal := stock.journal.advance.write ("new " ++ held.text) })
  | .get other :: steps, dependencies, stock =>
    match get other stock with
    | (.resolved held, stock) =>
      runSteps get type underConstruction steps (dependencies ++ [(other, held.serial)]) stock
    | (.failed failure, stock) => (.failed failure.message, stock)
    | (.panicked payload stack, stock) => (.panicked payload stack, stock)
  | .tryGet other :: steps, dependencies, stock =>
    match get other stock with
    | (.resolved held, stock) =>
      runSteps get type underConstruction steps (dependencies ++ [(other, held.serial)]) stock
    | (.failed failure, stock) =>
      runSteps get type underConstruction steps dependencies
        (stock.write (type.label ++ " swallowed: " ++ failure.message))
    | (.panicked payload stack, stock) => (.panicked payload stack, stock)
  | .fail root contexts :: _, _, stock => (.failed (Failure.chain root contexts), stock)
  | .panic message :: _, _, stock => (.panicked (.text message) underConstruction, stock)
  | .log text :: steps, dependencies, stock =>
    runSteps get type underConstruction steps dependencies
      (stock.write (type.label ++ ": " ++ text))

/-- Resolves a type among `services` while the types `stack` are under construction;
`construct` runs the constructor of a service that is neither held nor on the stack. -/
def resolveBy (services : List Service)
    (construct : Service → Stock → Construction × Stock) (stack : List ServiceType)
    (type : ServiceType) (stock : Stock) : Resolution × Stock :=
  match stock.holdings.find? type with
  | some held => (.resolved held, stock)
  | none =>
    if stack.contains type then (.failed (Resolution.cycle type), stock)
    else
      match findService? services type with
      | none => (.failed (.resolve type.name), stock)
      | some service =>
        match construct service stock with
        | (.constructed held, stock) =>
          (.resolved held, { stock with holdings := stock.holdings.add type held })
        | (.failed reason, stock) =>
          (.failed (Resolution.constructionFailed type reason), stock)
        | (.panicked payload stack, stock) => (.panicked payload stack, stock)

/-- Resolves a type with at most `room` nested constructors. Each is one of a registered
type that is not on the stack yet, so that the number of services is always enough. -/
def resolveWithin (services : List Service) :
    Nat → List ServiceType → ServiceType → Stock → Resolution × Stock
  | 0, stack, type, stock =>
    resolveBy services (fun _ stock => (.failed (Resolution.cycle type).message, stock))
      stack type stock
  | room + 1, stack, type, stock =>
    resolveBy services
      (fun service stock =>
        runSteps
          (fun other stock =>
            let (resolution, stock) := resolveWithin services room (type :: stack) other stock
            (resolution.ofType other, stock))
          type (type :: stack) service.steps [] stock)
      stack type stock

/-- A scope of a container, with the registrations of the moment it was opened. -/
structure ContainerScope where
  services : List Service
  holdings : Holdings
  /-- The types under construction; those that stay here were interrupted by a panic. -/
  resolving : List ServiceType
deriving DecidableEq, Repr, Inhabited

namespace ContainerScope

def ofContainer (container : Container) : ContainerScope :=
  ⟨container.services, .empty, []⟩

def scopeCreated : Report := .line .debug "scope created" []

def scopeDisposed : Report := .line .debug "scope disposed" []

def resolveAny (scope : ContainerScope) (type : ServiceType) (journal : Journal) :
    Resolution × ContainerScope × Journal :=
  let (resolution, stock) :=
    resolveWithin scope.services scope.services.length scope.resolving type
      ⟨scope.holdings, journal⟩
  let resolving := resolution.underConstruction scope.resolving
  (resolution, { scope with holdings := stock.holdings, resolving }, stock.journal)

def resolve (scope : ContainerScope) (type : ServiceType) (journal : Journal) :
    Resolution × ContainerScope × Journal :=
  let (resolution, scope, journal) := scope.resolveAny type journal
  (resolution.ofType type, scope, journal)

/-- What the hook of a disposed instance does. -/
def runHook (services : List Service) (held : Instance) (type : ServiceType)
    (journal : Journal) : Option Payload × Journal :=
  match (findService? services type).map Service.disposal with
  | some .logged => (none, journal.write ("dispose " ++ held.text))
  | some .panicking => (some (.text ("dispose " ++ held.text ++ " panicked")), journal)
  | some .silent | none => (none, journal)

/-- Disposes the newest instances first, up to and including one whose hook panics. -/
def disposeNewest (services : List Service) :
    List ServiceType → List (ServiceType × Instance) → Journal →
      Option Payload × Holdings × Journal
  | [], _, journal => (none, .empty, journal)
  | type :: created, instances, journal =>
    let holdings : Holdings := ⟨instances, created⟩
    match holdings.find? type with
    | none => disposeNewest services created instances journal
    | some held =>
      let remaining := holdings.remove type
      match runHook services held type journal with
      | (some payload, journal) => (some payload, remaining, journal)
      | (none, journal) => disposeNewest services created remaining.instances journal

/-- Disposes what the scope holds; gives the panic of the hook that cut it short. Only a
disposal that comes to its end is reported. -/
def dispose (scope : ContainerScope) (journal : Journal) :
    Option Payload × ContainerScope × Journal :=
  let (payload, holdings, journal) :=
    disposeNewest scope.services scope.holdings.created scope.holdings.instances journal
  let journal := if payload.isNone then journal.report scopeDisposed else journal
  (payload, { scope with holdings }, journal)

instance : ServiceScope ContainerScope Journal where
  resolveAny := resolveAny
  dispose scope journal :=
    let (payload, _, journal) := scope.dispose journal
    (payload, journal)

end ContainerScope

end WorkHost
