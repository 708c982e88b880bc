import WorkHost.Proofs.Work.Likeness
import WorkHost.Scope.Factory

/-!
Contract: serials decide nothing.

Two scopes of one factory may hold instances with different serials, because other
scopes have used some up. They are twins: whatever is resolved in them comes out alike,
and so does their disposal if no hook panics. The execution of an item cannot tell
which of the two it has (`likeness_twins`).
-/

namespace WorkHost

/-- What an item can tell about an instance is its type. -/
def Instance.Twins (held other : Instance) : Prop := held.type = other.type

namespace Holdings

/-- The types of the instances under the types that were asked for. -/
def types (holdings : Holdings) : List (ServiceType × ServiceType) :=
  holdings.instances.map fun entry => (entry.1, entry.2.type)

/-- The same types were constructed, in the same order. -/
structure Twins (holdings other : Holdings) : Prop where
  created : holdings.created = other.created
  types : holdings.types = other.types

theorem Twins.refl (holdings : Holdings) : holdings.Twins holdings := ⟨rfl, rfl⟩

theorem type_find? (holdings : Holdings) (type : ServiceType) :
    (holdings.find? type).map Instance.type =
      (holdings.types.find? fun entry => entry.1 = type).map Prod.snd := by
  unfold find? types
  rw [List.find?_map, Option.map_map, Option.map_map]
  rfl

variable {holdings other : Holdings}

theorem Twins.find? (twins : holdings.Twins other) (type : ServiceType) :
    (holdings.find? type).map Instance.type = (other.find? type).map Instance.type := by
  rw [type_find?, type_find?, twins.types]

theorem Twins.add (twins : holdings.Twins other) (type : ServiceType) {held held' : Instance}
    (same : held.Twins held') : (holdings.add type held).Twins (other.add type held') where
  created := congrArg (type :: ·) twins.created
  types := by
    show (type, held.type) :: holdings.types = (type, held'.type) :: other.types
    rw [same, twins.types]

end Holdings

/-- Resolving comes out alike and leaves twins. -/
def Resolution.Twins (answer other : Resolution × Stock) : Prop :=
  Alike Instance.Twins answer.1 other.1 ∧ answer.2.holdings.Twins other.2.holdings

inductive Construction.Alike : Construction → Construction → Prop where
  | constructed {held other : Instance} (twins : held.Twins other) :
    Alike (.constructed held) (.constructed other)
  | failed (reason : String) : Alike (.failed reason) (.failed reason)
  | panicked (payload : Payload) (stack : List ServiceType) :
    Alike (.panicked payload stack) (.panicked payload stack)

def Construction.Twins (answer other : Construction × Stock) : Prop :=
  Alike answer.1 other.1 ∧ answer.2.holdings.Twins other.2.holdings

section Constructors

variable {stock other : Stock}

theorem runSteps_twins {get : ServiceType → Stock → Resolution × Stock}
    (getTwins : ∀ (type : ServiceType) {stock other : Stock},
      stock.holdings.Twins other.holdings → Resolution.Twins (get type stock) (get type other))
    (type : ServiceType) (stack : List ServiceType) (steps : List BuildStep)
    (dependencies others : List (ServiceType × Nat))
    (twins : stock.holdings.Twins other.holdings) :
    Construction.Twins (runSteps get type stack steps dependencies stock)
      (runSteps get type stack steps others other) := by
  induction steps generalizing dependencies others stock other with
  | nil => exact ⟨.constructed rfl, twins⟩
  | cons step steps inductionHypothesis =>
    cases step with
    | get wanted =>
      obtain ⟨alike, left⟩ := getTwins wanted twins
      simp only [runSteps]
      generalize get wanted stock = answer at alike left ⊢
      generalize get wanted other = answer' at alike left ⊢
      obtain ⟨resolution, stock⟩ := answer
      obtain ⟨resolution', other⟩ := answer'
      cases alike with
      | resolved same => exact inductionHypothesis _ _ left
      | failed failure => exact ⟨.failed _, left⟩
      | panicked payload stack => exact ⟨.panicked payload stack, left⟩
    | tryGet wanted =>
      obtain ⟨alike, left⟩ := getTwins wanted twins
      simp only [runSteps]
      generalize get wanted stock = answer at alike left ⊢
      generalize get wanted other = answer' at alike left ⊢
      obtain ⟨resolution, stock⟩ := answer
      obtain ⟨resolution', other⟩ := answer'
      cases alike with
      | resolved same => exact inductionHypothesis _ _ left
      | failed failure =>
        let note := type.label ++ " swallowed: " ++ failure.message
        have written : (stock.write note).holdings.Twins (other.write note).holdings := left
        exact inductionHypothesis _ _ written
      | panicked payload stack => exact ⟨.panicked payload stack, left⟩
    | fail root contexts => exact ⟨.failed _, twins⟩
    | panic message => exact ⟨.panicked _ stack, twins⟩
    | log text =>
      let note := type.label ++ ": " ++ text
      have written : (stock.write note).holdings.Twins (other.write note).holdings := twins
      exact inductionHypothesis _ _ written

theorem resolveBy_twins {construct : Service → Stock → Construction × Stock}
    (constructTwins : ∀ (service : Service) {stock other : Stock},
      stock.holdings.Twins other.holdings →
        Construction.Twins (construct service stock) (construct service other))
    (services : List Service) (stack : List ServiceType) (type : ServiceType)
    (twins : stock.holdings.Twins other.holdings) :
    Resolution.Twins (resolveBy services construct stack type stock)
      (resolveBy services construct stack type other) := by
  have found := twins.find? type
  unfold resolveBy
  generalize stock.holdings.find? type = held at found ⊢
  generalize other.holdings.find? type = held' at found ⊢
  cases held with
  | some held =>
    obtain ⟨held', rfl, same⟩ := Option.map_eq_some_iff.mp found.symm
    exact ⟨.resolved same.symm, twins⟩
  | none =>
    rw [Option.map_none, eq_comm, Option.map_eq_none_iff] at found
    subst found
    by_cases cyclic : stack.contains type
    · simp only [cyclic, if_true]
      exact ⟨.failed _, twins⟩
    · simp only [cyclic, Bool.false_eq_true, if_false]
      cases findService? services type with
      | none => exact ⟨.failed _, twins⟩
      | some service =>
        obtain ⟨alike, left⟩ := constructTwins service twins
        dsimp only
        generalize construct service stock = answer at alike left ⊢
        generalize construct service other = answer' at alike left ⊢
        obtain ⟨construction, stock⟩ := answer
        obtain ⟨construction', other⟩ := answer'
        cases alike with
        | constructed same => exact ⟨.resolved same, left.add type same⟩
        | failed reason => exact ⟨.failed _, left⟩
        | panicked payload stack => exact ⟨.panicked payload stack, left⟩

theorem resolveWithin_twins (services : List Service) (room : Nat) (stack : List ServiceType)
    (type : ServiceType) (twins : stock.holdings.Twins other.holdings) :
    Resolution.Twins (resolveWithin services room stack type stock)
      (resolveWithin services room stack type other) := by
  induction room generalizing stack type stock other with
  | zero => exact resolveBy_twins (fun _ {_ _} same => ⟨.failed _, same⟩) services stack type twins
  | succ room inductionHypothesis =>
    refine resolveBy_twins (fun service {_ _} same => ?_) services stack type twins
    refine runSteps_twins (fun wanted {_ _} same => ?_) type (type :: stack) service.steps [] [] same
    obtain ⟨alike, left⟩ := inductionHypothesis (type :: stack) wanted same
    exact ⟨alike.ofType (fun same => same) wanted, left⟩

end Constructors

/-! ## Scopes -/

theorem Resolution.Alike.underConstruction {instances : Instance → Instance → Prop}
    {resolution other : Resolution} (alike : Alike instances resolution other)
    (stack : List ServiceType) :
    resolution.underConstruction stack = other.underConstruction stack := by
  cases alike <;> rfl

namespace ContainerScope

structure Twins (scope other : ContainerScope) : Prop where
  services : scope.services = other.services
  holdings : scope.holdings.Twins other.holdings
  resolving : scope.resolving = other.resolving

theorem Twins.resolveAny {scope other : ContainerScope} (twins : scope.Twins other)
    (type : ServiceType) (journal journal' : Journal) :
    Resolution.Alike Instance.Twins (scope.resolveAny type journal).1
        (other.resolveAny type journal').1 ∧
      (scope.resolveAny type journal).2.1.Twins (other.resolveAny type journal').2.1 := by
  obtain ⟨services, holdings, resolving⟩ := scope
  obtain ⟨_, others, _⟩ := other
  obtain ⟨rfl, held, rfl⟩ := twins
  have stocks : (⟨holdings, journal⟩ : Stock).holdings.Twins
      (⟨others, journal'⟩ : Stock).holdings := held
  obtain ⟨alike, left⟩ := resolveWithin_twins services services.length resolving type stocks
  exact ⟨alike, rfl, left, alike.underConstruction resolving⟩

end ContainerScope

/-! ## Disposal -/

/-- The hook of the service does not panic. -/
def Service.isCalm (service : Service) : Bool := service.disposal ≠ .panicking

/-- No hook of the factory's scopes panics. -/
def ScopeFactory.isCalm : ScopeFactory → Bool
  | .container registry => registry.services.all Service.isCalm
  | .provider _ => true

namespace ContainerScope

theorem runHook_of_calm {services : List Service} (calm : services.all Service.isCalm = true)
    (held : Instance) (type : ServiceType) (journal : Journal) :
    (runHook services held type journal).1 = none := by
  unfold runHook
  cases found : findService? services type with
  | none => rfl
  | some service =>
    have member : service ∈ services := List.mem_of_find?_eq_some found
    have quiet : service.disposal ≠ .panicking := by
      simpa [Service.isCalm] using List.all_eq_true.mp calm service member
    cases disposal : service.disposal with
    | silent => simp [disposal]
    | logged => simp [disposal]
    | panicking => exact absurd disposal quiet

theorem disposeNewest_of_calm {services : List Service}
    (calm : services.all Service.isCalm = true) (created : List ServiceType)
    (instances : List (ServiceType × Instance)) (journal : Journal) :
    (disposeNewest services created instances journal).1 = none := by
  induction created generalizing instances journal with
  | nil => rfl
  | cons type created inductionHypothesis =>
    simp only [disposeNewest]
    split
    · exact inductionHypothesis instances journal
    · rename_i held found
      have quiet := runHook_of_calm calm held type journal
      generalize runHook services held type journal = answer at quiet ⊢
      obtain ⟨panic, rest⟩ := answer
      dsimp only at quiet
      subst quiet
      exact inductionHypothesis _ rest

end ContainerScope

/-! ## Telling scopes apart -/

inductive OpenScope.Twins : OpenScope → OpenScope → Prop where
  | container {scope other : ContainerScope} (twins : scope.Twins other)
    (calm : scope.services.all Service.isCalm = true) :
    Twins (.container scope) (.container other)
  | provided (mode : ProviderMode) (serial other : Nat) :
    Twins (.provided mode serial) (.provided mode other)

theorem OpenScope.Twins.resolveAny {scope other : OpenScope} (twins : scope.Twins other)
    (type : ServiceType) (journal journal' : Journal) :
    Resolution.Alike Instance.Twins (scope.resolveAny type journal).1
        (other.resolveAny type journal').1 ∧
      (scope.resolveAny type journal).2.1.Twins (other.resolveAny type journal').2.1 := by
  cases twins with
  | container twins calm =>
    obtain ⟨alike, left⟩ := twins.resolveAny type journal journal'
    exact ⟨alike, .container left calm⟩
  | provided mode serial other =>
    refine ⟨?_, .provided mode serial other⟩
    cases mode with
    | mistaken => exact .resolved rfl
    | exploding => exact .panicked _ []
    | unavailable | barren => exact .failed _
    | single only =>
      simp only [OpenScope.resolveAny]
      split
      · exact .resolved rfl
      · exact .failed _

theorem OpenScope.Twins.dispose {scope other : OpenScope} (twins : scope.Twins other)
    (journal journal' : Journal) : (scope.dispose journal).1 = (other.dispose journal').1 := by
  cases twins with
  | container twins calm =>
    have calm' := twins.services ▸ calm
    have quiet := ContainerScope.disposeNewest_of_calm calm
    have quiet' := ContainerScope.disposeNewest_of_calm calm'
    exact (quiet _ _ journal).trans (quiet' _ _ journal').symm
  | provided mode serial other => rfl

/-- Whatever is in the journal, the scopes of a calm factory are twins. -/
theorem ScopeFactory.create_twins {factory : ScopeFactory} (calm : factory.isCalm = true)
    (journal journal' : Journal) :
    Opening.Alike OpenScope.Twins (factory.create journal).1 (factory.create journal').1 := by
  cases factory with
  | container registry => exact .opened (.container ⟨rfl, .refl _, rfl⟩ calm)
  | provider mode =>
    cases mode with
    | unavailable => exact .refused unavailable
    | _ => exact .opened (.provided _ _ _)

/-- Journals are written and never read, so that any two will do. -/
def Journal.Unread (_ _ : Journal) : Prop := True

theorem Journal.unread (journal other : Journal) : journal.Unread other := trivial

/-- No execution can tell twins apart, whatever is in the journals. -/
theorem likeness_twins : Likeness Instance.Twins OpenScope.Twins Journal.Unread where
  type same := same
  write _ _ := trivial
  resolveAny type twins _ := by
    obtain ⟨alike, left⟩ := twins.resolveAny type _ _
    exact ⟨alike, left, trivial⟩
  dispose twins _ := ⟨twins.dispose _ _, trivial⟩

end WorkHost
