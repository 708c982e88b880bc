import WorkHost.Scope.Container

/-!
Contract: what happens in a scope, written down as it happens.

`recordWithin` and `recordDisposal` do the work of `resolveWithin` and `disposeNewest` and
give besides what happens meanwhile, in order. Writing it down changes nothing
(`erase_recordWithin`, `erase_recordDisposal`).
-/

namespace WorkHost

/-- Something that happens in a scope. -/
inductive Occurrence where
  /-- The constructor of the service is started. -/
  | begun (service : Service)
  /-- A constructor writes a line of its own. -/
  | noted (line : String)
  /-- The constructor of the service has come to its end. -/
  | built (service : Service) (held : Instance)
  /-- The hook of the service is started for the instance. -/
  | hooked (service : Service) (held : Instance)
  /-- The instance goes without a hook. -/
  | dropped (held : Instance)
deriving DecidableEq, Repr

namespace Occurrence

/-- The lines that it leaves in the journal. -/
def lines : Occurrence → List String
  | .begun _ | .dropped _ => []
  | .noted line => [line]
  | .built _ held => ["new " ++ held.text]
  | .hooked service held =>
    if service.disposal = .logged then ["dispose " ++ held.text] else []

def built? : Occurrence → Option Instance
  | .built _ held => some held
  | _ => none

/-- The instance that is disposed, with a hook or without one. -/
def ended? : Occurrence → Option Instance
  | .hooked _ held | .dropped held => some held
  | _ => none

/-- How an instance that is held for a type ends. -/
def ending (services : List Service) (type : ServiceType) (held : Instance) : Occurrence :=
  match findService? services type with
  | some service => if service.disposal = .silent then .dropped held else .hooked service held
  | none => .dropped held

end Occurrence

/-- The instances that were constructed, in this order. -/
def builtIn (past : List Occurrence) : List Instance := past.filterMap Occurrence.built?

/-- The instances that were disposed, in this order. -/
def endedIn (past : List Occurrence) : List Instance := past.filterMap Occurrence.ended?

section Lists

variable (past more : List Occurrence) (occurrence : Occurrence) (services : List Service)
  (type : ServiceType) (held : Instance)

@[simp] theorem builtIn_append : builtIn (past ++ more) = builtIn past ++ builtIn more :=
  List.filterMap_append

@[simp] theorem endedIn_append : endedIn (past ++ more) = endedIn past ++ endedIn more :=
  List.filterMap_append

@[simp] theorem builtIn_singleton : builtIn [occurrence] = occurrence.built?.toList := by
  cases occurrence <;> rfl

@[simp] theorem endedIn_singleton : endedIn [occurrence] = occurrence.ended?.toList := by
  cases occurrence <;> rfl

@[simp] theorem built?_built (service : Service) :
    (Occurrence.built service held).built? = some held := rfl

@[simp] theorem ended?_built (service : Service) :
    (Occurrence.built service held).ended? = none := rfl

@[simp] theorem ended?_ending :
    (Occurrence.ending services type held).ended? = some held := by
  unfold Occurrence.ending
  split
  · split <;> rfl
  · rfl

@[simp] theorem built?_ending : (Occurrence.ending services type held).built? = none := by
  unfold Occurrence.ending
  split
  · split <;> rfl
  · rfl

end Lists

/-! ## Resolving -/

/-- An outcome with the stock that is left and what happened meanwhile. -/
abbrev Account (α : Type) : Type := α × Stock × List Occurrence

namespace Account

variable {α : Type}

/-- The outcome alone. -/
def erase (account : Account α) : α × Stock := (account.1, account.2.1)

/-- The same after something else has happened. -/
def after (earlier : List Occurrence) (account : Account α) : Account α :=
  (account.1, account.2.1, earlier ++ account.2.2)

end Account

/-- As `runSteps`, with what happens while `get` resolves other services and with the
lines of the constructor itself. -/
def recordSteps (get : ServiceType → Stock → Account Resolution) (type : ServiceType)
    (underConstruction : List ServiceType) :
    List BuildStep → List (ServiceType × Nat) → Stock → Account Construction
  | [], dependencies, stock =>
    let held : Instance := ⟨type, stock.journal.nextSerial, dependencies⟩
    (.constructed held,
      { stock with journal := stock.journal.advance.write ("new " ++ held.text) }, [])
  | .get other :: steps, dependencies, stock =>
    match get other stock with
    | (.resolved held, stock, meanwhile) =>
      (recordSteps get type underConstruction steps (dependencies ++ [(other, held.serial)])
        stock).after meanwhile
    | (.failed failure, stock, meanwhile) => (.failed failure.message, stock, meanwhile)
    | (.panicked payload stack, stock, meanwhile) => (.panicked payload stack, stock, meanwhile)
  | .tryGet other :: steps, dependencies, stock =>
    match get other stock with
    | (.resolved held, stock, meanwhile) =>
      (recordSteps get type underConstruction steps (dependencies ++ [(other, held.serial)])
        stock).after meanwhile
    | (.failed failure, stock, meanwhile) =>
      let line := type.label ++ " swallowed: " ++ failure.message
      (recordSteps get type underConstruction steps dependencies (stock.write line)).after
        (meanwhile ++ [.noted line])
    | (.panicked payload stack, stock, meanwhile) => (.panicked payload stack, stock, meanwhile)
  | .fail root contexts :: _, _, stock => (.failed (Failure.chain root contexts), stock, [])
  | .panic message :: _, _, stock => (.panicked (.text message) underConstruction, stock, [])
  | .log text :: steps, dependencies, stock =>
    let line := type.label ++ ": " ++ text
    (recordSteps get type underConstruction steps dependencies (stock.write line)).after
      [.noted line]

/-- As `resolveBy`. An instance counts as constructed when the scope takes it over. -/
def recordBy (services : List Service) (construct : Service → Stock → Account Construction)
    (stack : List ServiceType) (type : ServiceType) (stock : Stock) : Account Resolution :=
  match stock.holdings.find? type with
  | some held => (.resolved held, stock, [])
  | none =>
    if stack.contains type then (.failed (Resolution.cycle type), stock, [])
    else
      match findService? services type with
      | none => (.failed (.resolve type.name), stock, [])
      | some service =>
        match construct service stock with
        | (.constructed held, stock, meanwhile) =>
          (.resolved held, { stock with holdings := stock.holdings.add type held },
            .begun service :: (meanwhile ++ [.built service held]))
        | (.failed reason, stock, meanwhile) =>
          (.failed (Resolution.constructionFailed type reason), stock,
            .begun service :: meanwhile)
        | (.panicked payload stack, stock, meanwhile) =>
          (.panicked payload stack, stock, .begun service :: meanwhile)

/-- As `resolveWithin`. -/
def recordWithin (services : List Service) :
    Nat → List ServiceType → ServiceType → Stock → Account Resolution
  | 0, stack, type, stock =>
    recordBy services (fun _ stock => (.failed (Resolution.cycle type).message, stock, []))
      stack type stock
  | room + 1, stack, type, stock =>
    recordBy services
      (fun service stock =>
        recordSteps
          (fun other stock =>
            let (resolution, stock, meanwhile) :=
              recordWithin services room (type :: stack) other stock
            (resolution.ofType other, stock, meanwhile))
          type (type :: stack) service.steps [] stock)
      stack type stock

theorem erase_recordSteps {record : ServiceType → Stock → Account Resolution}
    {get : ServiceType → Stock → Resolution × Stock}
    (same : ∀ other stock, (record other stock).erase = get other stock) (type : ServiceType)
    (stack : List ServiceType) (steps : List BuildStep)
    (dependencies : List (ServiceType × Nat)) (stock : Stock) :
    (recordSteps record type stack steps dependencies stock).erase =
      runSteps get type stack steps dependencies stock := by
  induction steps generalizing dependencies stock with
  | nil => rfl
  | cons step steps inductionHypothesis =>
    cases step with
    | get other =>
      simp only [recordSteps, runSteps, ← same other stock]
      rcases record other stock with ⟨_ | _ | _, rest, meanwhile⟩
      case resolved held => exact inductionHypothesis _ rest
      case failed failure => rfl
      case panicked payload interrupted => rfl
    | tryGet other =>
      simp only [recordSteps, runSteps, ← same other stock]
      rcases record other stock with ⟨_ | _ | _, rest, meanwhile⟩
      case resolved held => exact inductionHypothesis _ rest
      case failed failure => exact inductionHypothesis _ (rest.write _)
      case panicked payload interrupted => rfl
    | fail root contexts => rfl
    | panic message => rfl
    | log text => exact inductionHypothesis _ (stock.write _)

theorem erase_recordBy {record : Service → Stock → Account Construction}
    {construct : Service → Stock → Construction × Stock}
    (same : ∀ service stock, (record service stock).erase = construct service stock)
    (services : List Service) (stack : List ServiceType) (type : ServiceType)
    (stock : Stock) :
    (recordBy services record stack type stock).erase =
      resolveBy services construct stack type stock := by
  unfold recordBy resolveBy
  cases stock.holdings.find? type with
  | some held => rfl
  | none =>
    by_cases cyclic : stack.contains type
    · simp only [cyclic, if_true]
      rfl
    · simp only [cyclic, Bool.false_eq_true, if_false]
      cases findService? services type with
      | none => rfl
      | some service =>
        simp only [← same service stock]
        rcases record service stock with ⟨_ | _ | _, rest, meanwhile⟩ <;> rfl

theorem erase_recordWithin (services : List Service) (room : Nat) (stack : List ServiceType)
    (type : ServiceType) (stock : Stock) :
    (recordWithin services room stack type stock).erase =
      resolveWithin services room stack type stock := by
  induction room generalizing stack type stock with
  | zero => exact erase_recordBy (fun service stock => rfl) services stack type stock
  | succ room inductionHypothesis =>
    apply erase_recordBy
    intro service stock
    apply erase_recordSteps
    intro other stock
    rw [← inductionHypothesis (type :: stack) other stock]
    rfl

/-! ## Disposal -/

namespace ContainerScope

/-- As `disposeNewest`. -/
def recordDisposal (services : List Service) :
    List ServiceType → List (ServiceType × Instance) → Journal →
      Option Payload × Holdings × Journal × List Occurrence
  | [], _, journal => (none, .empty, journal, [])
  | type :: created, instances, journal =>
    let holdings : Holdings := ⟨instances, created⟩
    match holdings.find? type with
    | none => recordDisposal services created instances journal
    | some held =>
      let remaining := holdings.remove type
      match runHook services held type journal with
      | (some payload, journal) =>
        (some payload, remaining, journal, [.ending services type held])
      | (none, journal) =>
        let (payload, left, journal, later) :=
          recordDisposal services created remaining.instances journal
        (payload, left, journal, .ending services type held :: later)

theorem erase_recordDisposal (services : List Service) (created : List ServiceType)
    (instances : List (ServiceType × Instance)) (journal : Journal) :
    let account := recordDisposal services created instances journal
    (account.1, account.2.1, account.2.2.1) =
      disposeNewest services created instances journal := by
  induction created generalizing instances journal with
  | nil => rfl
  | cons type created inductionHypothesis =>
    cases found : Holdings.find? ⟨instances, created⟩ type with
    | none =>
      simp only [recordDisposal, disposeNewest, found]
      exact inductionHypothesis instances journal
    | some held =>
      simp only [recordDisposal, disposeNewest, found]
      rcases runHook services held type journal with ⟨_ | payload, journal⟩
      case none => exact inductionHypothesis _ journal
      case some => rfl

end ContainerScope

end WorkHost
