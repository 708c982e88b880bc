import Mathlib.Data.List.Count
import WorkHost.Proofs.Scope.Requests

/-!
Contract: how a scope resolves a type, rule by rule.

`Resolves` and `Builds` say how a type is resolved and how the steps of a constructor are
run, each by what happens to the types that are asked for, without a limit to how deep
constructors nest. Besides the answer and what is left they give the visits: which types
are asked for, in order, and where their constructors begin and end. There is one outcome
(`Resolves.unique`), and it is that of the scope (`ContainerScope.resolve_resolves`).
-/

namespace WorkHost

/-- What becomes of one request for a type. -/
inductive Visit where
  /-- It is answered at once. -/
  | answered (type : ServiceType) (answer : Resolution)
  /-- The constructor of the type is started for it. -/
  | entered (type : ServiceType)
  /-- That constructor has ended, and with it the request. -/
  | left (type : ServiceType) (answer : Resolution)
deriving DecidableEq, Repr

namespace Visit

def type : Visit → ServiceType
  | .answered type _ | .entered type | .left type _ => type

def answer? : Visit → Option Resolution
  | .answered _ answer | .left _ answer => some answer
  | .entered _ => none

end Visit

/-- The type that the step asks for. -/
def BuildStep.asked? : BuildStep → Option ServiceType
  | .get type | .tryGet type => some type
  | .fail .. | .panic _ | .log _ => none

namespace Construction

/-- What a scope answers whose constructor of the type has ended. -/
def answer (type : ServiceType) : Construction → Resolution
  | .constructed held => .resolved held
  | .failed reason => .failed (Resolution.constructionFailed type reason)
  | .panicked payload interrupted => .panicked payload interrupted

/-- What a scope keeps of the end of a constructor of the type. -/
def keep (type : ServiceType) (stock : Stock) : Construction → Stock
  | .constructed held => { stock with holdings := stock.holdings.add type held }
  | .failed _ | .panicked .. => stock

end Construction

mutual

/-- Resolving a type, while the types of the stack are under construction, comes to an
answer, with what is left in stock and the visits meanwhile. -/
inductive Resolves (services : List Service) :
    List ServiceType → ServiceType → Stock → Resolution → Stock → List Visit → Prop where
  | held {stack : List ServiceType} {type : ServiceType} {stock : Stock} {held : Instance} :
    stock.holdings.find? type = some held →
      Resolves services stack type stock (.resolved held) stock [.answered type (.resolved held)]
  | cyclic {stack : List ServiceType} {type : ServiceType} {stock : Stock} :
    stock.holdings.find? type = none → type ∈ stack →
      Resolves services stack type stock (.failed (Resolution.cycle type)) stock
        [.answered type (.failed (Resolution.cycle type))]
  | unregistered {stack : List ServiceType} {type : ServiceType} {stock : Stock} :
    stock.holdings.find? type = none → type ∉ stack → findService? services type = none →
      Resolves services stack type stock (.failed (.resolve type.name)) stock
        [.answered type (.failed (.resolve type.name))]
  | ran {stack : List ServiceType} {type : ServiceType} {stock rest : Stock} {service : Service}
    (construction : Construction) {visits : List Visit} :
    stock.holdings.find? type = none → type ∉ stack →
      findService? services type = some service →
        Builds services type (type :: stack) service.steps [] stock construction rest visits →
          Resolves services stack type stock (construction.answer type)
            (construction.keep type rest)
            (.entered type :: visits ++ [.left type (construction.answer type)])

/-- Running the steps of a constructor of the type, whose constructor is the innermost of
those on the stack, comes to an end. -/
inductive Builds (services : List Service) :
    ServiceType → List ServiceType → List BuildStep → List (ServiceType × Nat) → Stock →
      Construction → Stock → List Visit → Prop where
  | finished {type : ServiceType} {stack : List ServiceType}
    {dependencies : List (ServiceType × Nat)} {stock : Stock} {held : Instance} :
    held = ⟨type, stock.journal.nextSerial, dependencies⟩ →
      Builds services type stack [] dependencies stock (.constructed held)
        { stock with journal := stock.journal.advance.write ("new " ++ held.text) } []
  | obtained {type other : ServiceType} {stack : List ServiceType} {step : BuildStep}
    {steps : List BuildStep} {dependencies : List (ServiceType × Nat)}
    {stock middle rest : Stock} {held : Instance} {construction : Construction}
    {visits more : List Visit} :
    step.asked? = some other → Resolves services stack other stock (.resolved held) middle visits →
      Builds services type stack steps (dependencies ++ [(other, held.serial)]) middle
        construction rest more →
        Builds services type stack (step :: steps) dependencies stock construction rest
          (visits ++ more)
  /-- A failure of a `get` is the constructor's. -/
  | refused {type other : ServiceType} {stack : List ServiceType} {steps : List BuildStep}
    {dependencies : List (ServiceType × Nat)} {stock rest : Stock} {failure : Failure}
    {visits : List Visit} :
    Resolves services stack other stock (.failed failure) rest visits →
      Builds services type stack (.get other :: steps) dependencies stock
        (.failed failure.message) rest visits
  | swallowed {type other : ServiceType} {stack : List ServiceType} {steps : List BuildStep}
    {dependencies : List (ServiceType × Nat)} {stock middle rest : Stock} {failure : Failure}
    {construction : Construction} {visits more : List Visit} :
    Resolves services stack other stock (.failed failure) middle visits →
      Builds services type stack steps dependencies
        (middle.write (type.label ++ " swallowed: " ++ failure.message)) construction rest more →
        Builds services type stack (.tryGet other :: steps) dependencies stock construction rest
          (visits ++ more)
  | interrupted {type other : ServiceType} {stack left : List ServiceType} {step : BuildStep}
    {steps : List BuildStep} {dependencies : List (ServiceType × Nat)} {stock rest : Stock}
    {payload : Payload} {visits : List Visit} :
    step.asked? = some other →
      Resolves services stack other stock (.panicked payload left) rest visits →
        Builds services type stack (step :: steps) dependencies stock (.panicked payload left)
          rest visits
  | failed {type : ServiceType} {stack : List ServiceType} {root : String}
    {contexts : List String} {steps : List BuildStep}
    {dependencies : List (ServiceType × Nat)} {stock : Stock} :
    Builds services type stack (.fail root contexts :: steps) dependencies stock
      (.failed (Failure.chain root contexts)) stock []
  | panicked {type : ServiceType} {stack : List ServiceType} {message : String}
    {steps : List BuildStep} {dependencies : List (ServiceType × Nat)} {stock : Stock} :
    Builds services type stack (.panic message :: steps) dependencies stock
      (.panicked (.text message) stack) stock []
  | noted {type : ServiceType} {stack : List ServiceType} {text : String}
    {steps : List BuildStep} {dependencies : List (ServiceType × Nat)} {stock rest : Stock}
    {construction : Construction} {visits : List Visit} :
    Builds services type stack steps dependencies (stock.write (type.label ++ ": " ++ text))
      construction rest visits →
      Builds services type stack (.log text :: steps) dependencies stock construction rest visits

end

/-! ## The outcome of a scope -/

section Outcomes

variable {services : List Service} {stack : List ServiceType} {type : ServiceType}

theorem runSteps_builds {get : ServiceType → Stock → Resolution × Stock}
    (gets : ∀ other stock, ∃ visits,
      Resolves services stack other stock (get other stock).1 (get other stock).2 visits)
    (steps : List BuildStep) (dependencies : List (ServiceType × Nat)) (stock : Stock) :
    let answer := runSteps get type stack steps dependencies stock
    ∃ visits, Builds services type stack steps dependencies stock answer.1 answer.2 visits := by
  induction steps generalizing dependencies stock with
  | nil => exact ⟨[], .finished rfl⟩
  | cons step steps inductionHypothesis =>
    cases step with
    | get other =>
      obtain ⟨visits, resolves⟩ := gets other stock
      simp only [runSteps]
      generalize get other stock = obtained at resolves ⊢
      rcases obtained with ⟨_ | _ | _, middle⟩
      case resolved held =>
        obtain ⟨more, builds⟩ := inductionHypothesis (dependencies ++ [(other, held.serial)]) middle
        exact ⟨visits ++ more, .obtained rfl resolves builds⟩
      case failed failure => exact ⟨visits, .refused resolves⟩
      case panicked payload interrupted => exact ⟨visits, .interrupted rfl resolves⟩
    | tryGet other =>
      obtain ⟨visits, resolves⟩ := gets other stock
      simp only [runSteps]
      generalize get other stock = obtained at resolves ⊢
      rcases obtained with ⟨_ | _ | _, middle⟩
      case resolved held =>
        obtain ⟨more, builds⟩ := inductionHypothesis (dependencies ++ [(other, held.serial)]) middle
        exact ⟨visits ++ more, .obtained rfl resolves builds⟩
      case failed failure =>
        obtain ⟨more, builds⟩ := inductionHypothesis dependencies (middle.write _)
        exact ⟨visits ++ more, .swallowed resolves builds⟩
      case panicked payload interrupted => exact ⟨visits, .interrupted rfl resolves⟩
    | fail root contexts => exact ⟨[], .failed⟩
    | panic message => exact ⟨[], .panicked⟩
    | log text =>
      obtain ⟨visits, builds⟩ := inductionHypothesis dependencies (stock.write _)
      exact ⟨visits, .noted builds⟩

/-- Whatever constructs a service, if it follows the rules then so does the resolution. -/
theorem resolveBy_resolves {construct : Service → Stock → Construction × Stock} (stock : Stock)
    (constructs : ∀ service, type ∉ stack → findService? services type = some service →
      ∃ visits, Builds services type (type :: stack) service.steps [] stock
        (construct service stock).1 (construct service stock).2 visits) :
    let answer := resolveBy services construct stack type stock
    ∃ visits, Resolves services stack type stock answer.1 answer.2 visits := by
  cases found : stock.holdings.find? type with
  | some held =>
    simp only [resolveBy, found]
    exact ⟨_, .held found⟩
  | none =>
    by_cases cyclic : type ∈ stack
    · simp only [resolveBy, found, List.contains_iff_mem.mpr cyclic, if_true]
      exact ⟨_, .cyclic found cyclic⟩
    · have idle : stack.contains type = false := by simpa using cyclic
      cases registered : findService? services type with
      | none =>
        simp only [resolveBy, found, idle, registered]
        exact ⟨_, .unregistered found cyclic registered⟩
      | some service =>
        obtain ⟨visits, builds⟩ := constructs service cyclic registered
        have ran := Resolves.ran _ found cyclic registered builds
        simp only [resolveBy, found, idle, registered, Bool.false_eq_true, if_false]
        generalize construct service stock = built at ran ⊢
        rcases built with ⟨_ | _ | _, rest⟩
        case constructed held => exact ⟨_, ran⟩
        case failed reason => exact ⟨_, ran⟩
        case panicked payload interrupted => exact ⟨_, ran⟩

/-- How many constructors can still be nested. -/
def spare (services : List Service) (stack : List ServiceType) : Nat :=
  services.countP fun service => service.type ∉ stack

theorem mem_of_findService? {service : Service}
    (registered : findService? services type = some service) :
    service ∈ services ∧ service.type = type :=
  ⟨List.mem_of_find?_eq_some registered, by simpa using List.find?_some registered⟩

/-- A registered type on the stack uses up room. -/
theorem spare_cons_lt {service : Service} (idle : type ∉ stack)
    (registered : findService? services type = some service) :
    spare services (type :: stack) < spare services stack := by
  obtain ⟨isService, rfl⟩ := mem_of_findService? registered
  have others : spare services (service.type :: stack) =
      (services.filter fun other => other.type ∉ stack).countP
        fun other => other.type ≠ service.type := by
    rw [spare, List.countP_filter]
    apply List.countP_congr
    intro other isOther
    simp
  rw [others, spare, List.countP_eq_length_filter (l := services), List.countP_lt_length_iff]
  exact ⟨service, by simp [isService, idle], by simp⟩

theorem resolveTrusting_resolves (services : List Service) (room : Nat)
    (stack : List ServiceType) (type : ServiceType) (stock : Stock)
    (enough : spare services stack ≤ room) :
    let answer := resolveTrusting services room stack type stock
    ∃ visits, Resolves services stack type stock answer.1 answer.2 visits := by
  induction room generalizing stack type stock with
  | zero =>
    apply resolveBy_resolves stock
    intro service idle registered
    have fewer := spare_cons_lt idle registered
    omega
  | succ room inductionHypothesis =>
    apply resolveBy_resolves stock
    intro service idle registered
    have fewer := spare_cons_lt idle registered
    apply runSteps_builds
    intro other stock
    exact inductionHypothesis (type :: stack) other stock (by omega)

end Outcomes

/-- What a scope answers and keeps is what the rules say. -/
theorem ContainerScope.resolve_resolves {scope : ContainerScope} (sound : scope.Sound)
    (type : ServiceType) (journal : Journal) :
    let resolved := scope.resolve type journal
    ∃ visits, Resolves scope.services scope.resolving type ⟨scope.holdings, journal⟩ resolved.1
      ⟨resolved.2.1.holdings, resolved.2.2⟩ visits := by
  rw [resolve_eq_resolveTrusting sound]
  exact resolveTrusting_resolves _ _ _ _ _ List.countP_le_length

theorem ContainerScope.resolve_resolving {scope : ContainerScope} (sound : scope.Sound)
    (type : ServiceType) (journal : Journal) :
    (scope.resolve type journal).2.1.resolving =
      (scope.resolve type journal).1.underConstruction scope.resolving := by
  rw [resolve_eq_resolveTrusting sound]
  rfl

/-! ## One outcome -/

mutual

theorem Resolves.unique {services : List Service} {stack : List ServiceType}
    {type : ServiceType} {stock rest rest' : Stock} {answer answer' : Resolution}
    {visits visits' : List Visit} :
    Resolves services stack type stock answer rest visits →
      Resolves services stack type stock answer' rest' visits' →
        answer = answer' ∧ rest = rest' ∧ visits = visits'
  | .held found, second => by
    cases second with
    | held found' =>
      cases found.symm.trans found'
      exact ⟨rfl, rfl, rfl⟩
    | cyclic missing | unregistered missing | ran _ missing => cases found.symm.trans missing
  | .cyclic missing busy, second => by
    cases second with
    | held found => cases missing.symm.trans found
    | cyclic => exact ⟨rfl, rfl, rfl⟩
    | unregistered _ idle | ran _ _ idle => exact absurd busy idle
  | .unregistered missing idle unknown, second => by
    cases second with
    | held found => cases missing.symm.trans found
    | cyclic _ busy => exact absurd busy idle
    | unregistered => exact ⟨rfl, rfl, rfl⟩
    | ran _ _ _ registered => cases unknown.symm.trans registered
  | .ran construction missing idle registered builds, second => by
    cases second with
    | held found => cases missing.symm.trans found
    | cyclic _ busy => exact absurd busy idle
    | unregistered _ _ unknown => cases registered.symm.trans unknown
    | ran _ _ _ registered' builds' =>
      cases registered.symm.trans registered'
      obtain ⟨rfl, rfl, rfl⟩ := builds.unique builds'
      exact ⟨rfl, rfl, rfl⟩

theorem Builds.unique {services : List Service} {stack : List ServiceType}
    {type : ServiceType} {steps : List BuildStep} {dependencies : List (ServiceType × Nat)}
    {stock rest rest' : Stock} {construction construction' : Construction}
    {visits visits' : List Visit} :
    Builds services type stack steps dependencies stock construction rest visits →
      Builds services type stack steps dependencies stock construction' rest' visits' →
        construction = construction' ∧ rest = rest' ∧ visits = visits'
  | .finished made, second => by
    cases second with
    | finished made' =>
      cases made.trans made'.symm
      exact ⟨rfl, rfl, rfl⟩
  | .obtained asks resolves builds, second => by
    cases second with
    | obtained asks' resolves' builds' =>
      cases asks.symm.trans asks'
      obtain ⟨same, rfl, rfl⟩ := resolves.unique resolves'
      cases same
      obtain ⟨rfl, rfl, rfl⟩ := builds.unique builds'
      exact ⟨rfl, rfl, rfl⟩
    | interrupted asks' resolves' =>
      cases asks.symm.trans asks'
      cases (resolves.unique resolves').1
    | refused resolves' | swallowed resolves' =>
      cases asks
      cases (resolves.unique resolves').1
    | failed | panicked | noted => cases asks
  | .refused resolves, second => by
    cases second with
    | refused resolves' =>
      obtain ⟨same, rfl, rfl⟩ := resolves.unique resolves'
      cases same
      exact ⟨rfl, rfl, rfl⟩
    | obtained asks resolves' | interrupted asks resolves' =>
      cases asks
      cases (resolves.unique resolves').1
  | .swallowed resolves builds, second => by
    cases second with
    | swallowed resolves' builds' =>
      obtain ⟨same, rfl, rfl⟩ := resolves.unique resolves'
      cases same
      obtain ⟨rfl, rfl, rfl⟩ := builds.unique builds'
      exact ⟨rfl, rfl, rfl⟩
    | obtained asks resolves' | interrupted asks resolves' =>
      cases asks
      cases (resolves.unique resolves').1
  | .interrupted asks resolves, second => by
    cases second with
    | interrupted asks' resolves' =>
      cases asks.symm.trans asks'
      obtain ⟨same, rfl, rfl⟩ := resolves.unique resolves'
      cases same
      exact ⟨rfl, rfl, rfl⟩
    | obtained asks' resolves' =>
      cases asks.symm.trans asks'
      cases (resolves.unique resolves').1
    | refused resolves' | swallowed resolves' =>
      cases asks
      cases (resolves.unique resolves').1
    | failed | panicked | noted => cases asks
  | .failed, second => by
    cases second with
    | failed => exact ⟨rfl, rfl, rfl⟩
    | obtained asks | interrupted asks => cases asks
  | .panicked, second => by
    cases second with
    | panicked => exact ⟨rfl, rfl, rfl⟩
    | obtained asks | interrupted asks => cases asks
  | .noted builds, second => by
    cases second with
    | noted builds' => exact builds.unique builds'
    | obtained asks | interrupted asks => cases asks

end

/-! ## What is held afterwards -/

mutual

theorem Resolves.answers {services : List Service} {stack : List ServiceType}
    {type : ServiceType} {stock rest : Stock} {answer : Resolution} {visits : List Visit} :
    Resolves services stack type stock answer rest visits → stock.holdings.Sound stack →
      Resolution.Answers type stack (answer, rest)
  | .held found, sound => by
    refine ⟨?_, sound⟩
    intro held isHeld
    cases isHeld
    exact sound.type_of_find? found
  | .cyclic .., sound | .unregistered .., sound => ⟨nofun, sound⟩
  | .ran construction missing idle registered builds, sound => by
    have answers := builds.answers (sound.push missing idle)
    cases construction with
    | constructed held =>
      have typed := answers.typed held rfl
      refine ⟨?_, Holdings.Sound.add answers.sound typed⟩
      intro other isHeld
      cases isHeld
      exact typed
    | failed reason => exact ⟨nofun, Holdings.Sound.pop answers.sound⟩
    | panicked payload interrupted => exact ⟨nofun, answers.sound⟩

theorem Builds.answers {services : List Service} {stack : List ServiceType}
    {type : ServiceType} {steps : List BuildStep} {dependencies : List (ServiceType × Nat)}
    {stock rest : Stock} {construction : Construction} {visits : List Visit} :
    Builds services type stack steps dependencies stock construction rest visits →
      stock.holdings.Sound stack → Construction.Answers type stack (construction, rest)
  | .finished made, sound => by
    refine ⟨?_, sound⟩
    intro held isHeld
    cases isHeld
    rw [made]
  | .obtained asks resolves builds, sound => builds.answers (resolves.answers sound).sound
  | .refused resolves, sound => ⟨nofun, (resolves.answers sound).sound⟩
  | .swallowed resolves builds, sound => builds.answers (resolves.answers sound).sound
  | .interrupted asks resolves, sound => ⟨nofun, (resolves.answers sound).sound⟩
  | .failed, sound | .panicked, sound => ⟨nofun, sound⟩
  | .noted builds, sound => builds.answers sound

end

end WorkHost
