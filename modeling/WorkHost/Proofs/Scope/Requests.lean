import WorkHost.Proofs.Scope.Soundness

/-!
Contract: what is served by a container's scope, and what it holds afterwards.

The owner of a scope resolves types and disposes the scope in any order and any number
of times, also after a panic. What the scope holds stays sound (`serveAll_sound`). Each
answer is the one of a scope that never compares types (`resolve_eq_resolveTrusting`),
so that no answer is that the type is wrong.
-/

namespace WorkHost

/-- As `resolveWithin`, but a constructor takes whatever it gets for what it asked for. -/
def resolveTrusting (services : List Service) :
    Nat → List ServiceType → ServiceType → Stock → Resolution × Stock
  | 0, stack, type, stock => resolveWithin services 0 stack type stock
  | room + 1, stack, type, stock =>
    resolveBy services
      (fun service stock =>
        runSteps (resolveTrusting services room (type :: stack)) type (type :: stack)
          service.steps [] stock)
      stack type stock

theorem resolveWithin_ofType (services : List Service) (room : Nat)
    (stack : List ServiceType) (type : ServiceType) (stock : Stock)
    (sound : stock.holdings.Sound stack) :
    ((resolveWithin services room stack type stock).1.ofType type,
        (resolveWithin services room stack type stock).2) =
      resolveWithin services room stack type stock := by
  rw [Resolution.ofType_of_answers (resolveWithin_answers services room stack type stock sound)]

theorem resolveWithin_eq_resolveTrusting (services : List Service) (room : Nat)
    (stack : List ServiceType) (type : ServiceType) (stock : Stock)
    (sound : stock.holdings.Sound stack) :
    resolveWithin services room stack type stock =
      resolveTrusting services room stack type stock := by
  induction room generalizing stack type stock with
  | zero => rfl
  | succ room inductionHypothesis =>
    apply resolveBy_congr services stock sound
    intro service pushed
    apply runSteps_congr _ _ service.steps [] stock pushed
    · intro other stock sound
      show Resolution.Answers other (type :: stack) (_, _)
      rw [resolveWithin_ofType services room (type :: stack) other stock sound]
      exact resolveWithin_answers services room (type :: stack) other stock sound
    · intro other stock sound
      show (_, _) = _
      rw [resolveWithin_ofType services room (type :: stack) other stock sound]
      exact inductionHypothesis (type :: stack) other stock sound

namespace Resolution

theorem cycle_ne_wrongType (type other : ServiceType) : cycle type ≠ wrongType other := by
  intro same
  have texts := congrArg String.toList (Failure.scope.inj same)
  simp at texts

theorem constructionFailed_ne_wrongType (type other : ServiceType) (reason : String) :
    constructionFailed type reason ≠ wrongType other := by
  intro same
  have texts := congrArg String.toList (Failure.scope.inj same)
  simp at texts

end Resolution

theorem resolveBy_ne_wrongType (services : List Service)
    (construct : Service → Stock → Construction × Stock) (stack : List ServiceType)
    (type other : ServiceType) (stock : Stock) :
    (resolveBy services construct stack type stock).1 ≠
      .failed (Resolution.wrongType other) := by
  intro wrong
  cases found : stock.holdings.find? type with
  | some held => simp [resolveBy, found] at wrong
  | none =>
    by_cases cyclic : stack.contains type
    · simp only [resolveBy, found, cyclic, if_true] at wrong
      exact Resolution.cycle_ne_wrongType type other (Resolution.failed.inj wrong)
    · cases registered : findService? services type with
      | none =>
        simp only [resolveBy, found, cyclic, registered, Bool.false_eq_true, if_false] at wrong
        cases Resolution.failed.inj wrong
      | some service =>
        simp only [resolveBy, found, cyclic, registered, Bool.false_eq_true, if_false] at wrong
        generalize construct service stock = built at wrong
        rcases built with ⟨_ | _ | _, rest⟩
        case constructed held => cases wrong
        case failed reason =>
          exact Resolution.constructionFailed_ne_wrongType type other reason
            (Resolution.failed.inj wrong)
        case panicked payload interrupted => cases wrong

namespace ContainerScope

theorem disposeNewest_sound (services : List Service) {created : List ServiceType}
    {instances : List (ServiceType × Instance)} {stack : List ServiceType}
    (sound : Holdings.Sound ⟨instances, created⟩ stack) (journal : Journal) :
    (disposeNewest services created instances journal).2.1.Sound stack := by
  induction created generalizing instances journal with
  | nil => exact Holdings.Sound.empty sound.underConstruction_nodup
  | cons type created inductionHypothesis =>
    obtain ⟨held, older, rfl, removed, rest⟩ := sound.newest
    have found : Holdings.find? ⟨(type, held) :: older, created⟩ type = some held := by
      simp [Holdings.find?]
    simp only [disposeNewest, found, removed]
    rcases runHook services held type journal with ⟨_ | payload, journal⟩
    case none => exact inductionHypothesis rest journal
    case some => exact rest

/-- What the owner of a scope can ask of it. Other scopes may write into the journal
between two requests. -/
inductive Request where
  | resolve (type : ServiceType) (journal : Journal)
  | dispose (journal : Journal)
deriving DecidableEq, Repr

def serve (scope : ContainerScope) : Request → ContainerScope
  | .resolve type journal => (scope.resolve type journal).2.1
  | .dispose journal => (scope.dispose journal).2.1

def serveAll (scope : ContainerScope) (requests : List Request) : ContainerScope :=
  requests.foldl serve scope

def Sound (scope : ContainerScope) : Prop := scope.holdings.Sound scope.resolving

theorem ofContainer_sound (container : Container) : (ofContainer container).Sound :=
  Holdings.Sound.empty List.nodup_nil

theorem serve_sound {scope : ContainerScope} (sound : scope.Sound) (request : Request) :
    (scope.serve request).Sound := by
  cases request with
  | resolve type journal =>
    exact (resolveWithin_answers scope.services scope.services.length scope.resolving type
      ⟨scope.holdings, journal⟩ sound).sound
  | dispose journal => exact disposeNewest_sound scope.services sound journal

theorem serveAll_sound {scope : ContainerScope} (sound : scope.Sound)
    (requests : List Request) : (scope.serveAll requests).Sound := by
  induction requests generalizing scope with
  | nil => exact sound
  | cons request requests inductionHypothesis =>
    exact inductionHypothesis (serve_sound sound request)

/-- As `resolve`, without a look at the type of any instance. -/
def resolveTrusting (scope : ContainerScope) (type : ServiceType) (journal : Journal) :
    Resolution × ContainerScope × Journal :=
  let (resolution, stock) :=
    WorkHost.resolveTrusting scope.services scope.services.length scope.resolving type
      ⟨scope.holdings, journal⟩
  let resolving := resolution.underConstruction scope.resolving
  (resolution, { scope with holdings := stock.holdings, resolving }, stock.journal)

theorem resolve_eq_resolveTrusting {scope : ContainerScope} (sound : scope.Sound)
    (type : ServiceType) (journal : Journal) :
    scope.resolve type journal = scope.resolveTrusting type journal := by
  have answers := resolveWithin_answers scope.services scope.services.length scope.resolving
    type ⟨scope.holdings, journal⟩ sound
  have same := resolveWithin_eq_resolveTrusting scope.services scope.services.length
    scope.resolving type ⟨scope.holdings, journal⟩ sound
  simp only [resolve, resolveAny, resolveTrusting, ← same, Resolution.ofType_of_answers answers]

theorem resolve_ne_wrongType {scope : ContainerScope} (sound : scope.Sound)
    (type other : ServiceType) (journal : Journal) :
    (scope.resolve type journal).1 ≠ .failed (Resolution.wrongType other) := by
  have answers := resolveWithin_answers scope.services scope.services.length scope.resolving
    type ⟨scope.holdings, journal⟩ sound
  simp only [resolve, resolveAny, Resolution.ofType_of_answers answers]
  cases scope.services.length with
  | zero => apply resolveBy_ne_wrongType
  | succ room => apply resolveBy_ne_wrongType

/-- After any requests, the types that a scope lists as constructed are those of which it
holds an instance, each once; the instances are of the types they are held for, so that
comparing types decides nothing; and the types under construction are others. -/
theorem holdings_stay_sound (container : Container) (requests : List Request) :
    let scope := (ofContainer container).serveAll requests
    scope.holdings.created.Nodup ∧
      (∀ type, type ∈ scope.holdings.created ↔ (scope.holdings.find? type).isSome) ∧
      (scope.holdings.instances.map Prod.fst).Nodup ∧
      (∀ type held, scope.holdings.find? type = some held → held.type = type) ∧
      (∀ type journal, scope.resolve type journal = scope.resolveTrusting type journal) ∧
      (∀ type other journal,
        (scope.resolve type journal).1 ≠ .failed (Resolution.wrongType other)) ∧
      scope.resolving.Nodup ∧
      scope.resolving.Disjoint scope.holdings.created := by
  intro scope
  have sound : scope.Sound := serveAll_sound (ofContainer_sound container) requests
  refine ⟨sound.created_nodup, ?_, ?_, ?_, ?_, ?_, sound.underConstruction_nodup,
    sound.disjoint⟩
  · intro type
    rw [Option.isSome_iff_ne_none, Ne, Holdings.find?_eq_none_iff, sound.keys, not_not]
  · rw [sound.keys]
    exact sound.created_nodup
  · intro type held found
    exact sound.type_of_find? found
  · exact resolve_eq_resolveTrusting sound
  · exact resolve_ne_wrongType sound

end ContainerScope

end WorkHost
