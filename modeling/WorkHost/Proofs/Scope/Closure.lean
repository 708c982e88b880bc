import Mathlib.Logic.Relation
import WorkHost.Proofs.Scope.Evaluation
import WorkHost.Proofs.Scope.Lifetimes

/-!
Contract: which services a scope can construct, if constructors only ask for others.

Resolving a type walks the graph of what is needed (`Needs`) depth first. What a scope has
constructed is layered: each type is registered, and all that it needs is older
(`Layered`). So nothing that was constructed reaches itself (`Layered.acyclic`), and what
fails reaches a type that is unregistered or reaches itself (`Resolves.walks`). Together
this says exactly what can be resolved, and what is constructed then
(`resolves_iff_wellFounded`).
-/

namespace WorkHost

open Relation

/-! ## What is needed -/

/-- The constructor of the type asks for the other one. -/
def Needs (services : List Service) (type other : ServiceType) : Prop :=
  ∃ service, findService? services type = some service ∧ .get other ∈ service.steps

/-- The other type is the type itself, or it is needed for it at some remove. -/
abbrev Reaches (services : List Service) : ServiceType → ServiceType → Prop :=
  ReflTransGen (Needs services)

/-- Nothing can be made of the type: it is not registered, or it needs itself. -/
def IsBroken (services : List Service) (type : ServiceType) : Prop :=
  findService? services type = none ∨ TransGen (Needs services) type type

/-- A step that only asks for another service or writes a line. -/
def BuildStep.IsPlain : BuildStep → Prop
  | .get _ | .log _ => True
  | .tryGet _ | .fail .. | .panic _ => False

/-- Constructors only ask for other services. -/
def IsPlain (services : List Service) : Prop :=
  ∀ service ∈ services, ∀ step ∈ service.steps, step.IsPlain

instance (step : BuildStep) : Decidable step.IsPlain :=
  match step with
  | .get _ | .log _ => isTrue trivial
  | .tryGet _ | .fail .. | .panic _ => isFalse id

instance (services : List Service) : Decidable (IsPlain services) :=
  inferInstanceAs (Decidable (∀ service ∈ services, ∀ step ∈ service.steps, step.IsPlain))

/-! ## Layers -/

/-- Types, the newest first: each is registered, and all that it needs is older. -/
def Layered (services : List Service) : List ServiceType → Prop
  | [] => True
  | type :: older => findService? services type ≠ none ∧
      (∀ other, Needs services type other → other ∈ older) ∧ Layered services older

namespace Layered

variable {services : List Service} {types : List ServiceType} {type other : ServiceType}

theorem of_append {newer : List ServiceType} (layered : Layered services (newer ++ types)) :
    Layered services types := by
  induction newer with
  | nil => exact layered
  | cons newest newer inductionHypothesis => exact inductionHypothesis layered.2.2

theorem registered (layered : Layered services types) (isType : type ∈ types) :
    findService? services type ≠ none := by
  induction types with
  | nil => cases isType
  | cons newest older inductionHypothesis =>
    rcases List.mem_cons.mp isType with rfl | isOlder
    · exact layered.1
    · exact inductionHypothesis layered.2.2 isOlder

theorem needed (layered : Layered services types) (isType : type ∈ types)
    (needs : Needs services type other) : other ∈ types := by
  induction types with
  | nil => cases isType
  | cons newest older inductionHypothesis =>
    rcases List.mem_cons.mp isType with rfl | isOlder
    · exact List.mem_cons_of_mem _ (layered.2.1 other needs)
    · exact List.mem_cons_of_mem _ (inductionHypothesis layered.2.2 isOlder)

/-- Whatever a type in the layers reaches is in the layers. -/
theorem reached (layered : Layered services types) (isType : type ∈ types)
    (reaches : Reaches services type other) : other ∈ types := by
  induction reaches with
  | refl => exact isType
  | tail reaches needs inductionHypothesis => exact layered.needed inductionHypothesis needs

/-- No type in layers without repetition needs itself. -/
theorem acyclic (layered : Layered services types) (nodup : types.Nodup)
    (isType : type ∈ types) : ¬ TransGen (Needs services) type type := by
  induction types with
  | nil => cases isType
  | cons newest older inductionHypothesis =>
    obtain ⟨alone, olderNodup⟩ := List.nodup_cons.mp nodup
    rcases List.mem_cons.mp isType with rfl | isOlder
    · intro cycle
      obtain ⟨next, needs, back⟩ := TransGen.head'_iff.mp cycle
      exact alone (layered.2.2.reached (layered.2.1 next needs) back)
    · exact inductionHypothesis layered.2.2 olderNodup isOlder

end Layered

/-! ## The walk -/

/-- What a walk from the roots has added to the constructed types. -/
structure Walks (services : List Service) (roots : ServiceType → Prop)
    (before after : List ServiceType) : Prop where
  layered : Layered services after
  grown : ∃ newer, after = newer ++ before ∧
    ∀ other ∈ newer, ∃ root, roots root ∧ Reaches services root other

namespace Walks

variable {services : List Service} {roots : ServiceType → Prop}
  {before middle after : List ServiceType}

theorem refl (layered : Layered services before) : Walks services roots before before :=
  ⟨layered, [], rfl, nofun⟩

theorem trans (walks : Walks services roots before middle)
    (more : Walks services roots middle after) : Walks services roots before after := by
  obtain ⟨newer, rfl, reached⟩ := walks.grown
  obtain ⟨newest, rfl, reachedLater⟩ := more.grown
  refine ⟨more.layered, newest ++ newer, by rw [List.append_assoc], ?_⟩
  intro other isNew
  rcases List.mem_append.mp isNew with isNewest | isNewer
  · exact reachedLater other isNewest
  · exact reached other isNewer

/-- The walk starts at other types, from which the roots are reached. -/
theorem reroot (walks : Walks services roots before after) {others : ServiceType → Prop}
    (sources : ∀ root, roots root → ∃ other, others other ∧ Reaches services other root) :
    Walks services others before after := by
  obtain ⟨newer, same, reached⟩ := walks.grown
  refine ⟨walks.layered, newer, same, ?_⟩
  intro other isNew
  obtain ⟨root, isRoot, reaches⟩ := reached other isNew
  obtain ⟨source, isSource, leads⟩ := sources root isRoot
  exact ⟨source, isSource, leads.trans reaches⟩

theorem kept (walks : Walks services roots before after) {type : ServiceType}
    (isType : type ∈ before) : type ∈ after := by
  obtain ⟨newer, rfl, -⟩ := walks.grown
  exact List.mem_append_right newer isType

end Walks

/-- What an answer says about the graph, if the types on the stack are under construction
and those of the list are constructed. -/
def Resolution.Tells (services : List Service) (stack : List ServiceType) (type : ServiceType)
    (created : List ServiceType) : Resolution → Prop
  | .resolved _ => type ∈ created
  | .failed _ => ∃ other, Reaches services type other ∧ (other ∈ stack ∨ IsBroken services other)
  | .panicked .. => False

/-- What the end of a constructor with the steps says about the graph. -/
def Construction.Tells (services : List Service) (stack : List ServiceType)
    (steps : List BuildStep) (created : List ServiceType) : Construction → Prop
  | .constructed _ => ∀ needed, .get needed ∈ steps → needed ∈ created
  | .failed _ => ∃ needed, .get needed ∈ steps ∧
      ∃ other, Reaches services needed other ∧ (other ∈ stack ∨ IsBroken services other)
  | .panicked .. => False

theorem BuildStep.IsPlain.eq_get {step : BuildStep} {other : ServiceType} (plain : step.IsPlain)
    (asks : step.asked? = some other) : step = .get other := by
  cases step with
  | get type =>
    cases asks
    rfl
  | tryGet type => exact plain.elim
  | fail root contexts | panic message | log text => cases asks

theorem needs_of_registered {services : List Service} {type : ServiceType} {service : Service}
    (registered : findService? services type = some service) {needed : ServiceType}
    (asks : .get needed ∈ service.steps) : Needs services type needed :=
  ⟨service, registered, asks⟩

theorem Needs.asks {services : List Service} {type needed : ServiceType} {service : Service}
    (needs : Needs services type needed)
    (registered : findService? services type = some service) : .get needed ∈ service.steps := by
  obtain ⟨other, found, asks⟩ := needs
  cases found.symm.trans registered
  exact asks

theorem Holdings.Sound.mem_created_iff {holdings : Holdings} {stack : List ServiceType}
    (sound : holdings.Sound stack) (type : ServiceType) :
    type ∈ holdings.created ↔ ∃ held, holdings.find? type = some held := by
  rw [← Option.isSome_iff_exists, Option.isSome_iff_ne_none, Ne, Holdings.find?_eq_none_iff,
    sound.keys, not_not]

section Rules

variable {services : List Service} {stack : List ServiceType} {type : ServiceType}
  {construction : Construction} {before : List ServiceType}

/-- A constructor that has come to its end makes a new layer; one that has failed tells of
a cycle if it reached its own type. -/
theorem Walks.construct {service : Service} {rest : Stock}
    (registered : findService? services type = some service)
    (walks : Walks services (fun needed => .get needed ∈ service.steps) before
      rest.holdings.created)
    (tells : construction.Tells services (type :: stack) service.steps rest.holdings.created) :
    let created := (construction.keep type rest).holdings.created
    Walks services (· = type) before created ∧
      (construction.answer type).Tells services stack type created := by
  have walksOn : Walks services (· = type) before rest.holdings.created :=
    walks.reroot fun needed asks => ⟨type, rfl, .single (needs_of_registered registered asks)⟩
  cases construction with
  | constructed held =>
    have layer : Layered services (type :: rest.holdings.created) :=
      ⟨Option.ne_none_iff_exists'.mpr ⟨_, registered⟩,
        fun needed needs => tells needed (needs.asks registered), walksOn.layered⟩
    refine ⟨walksOn.trans ⟨layer, [type], rfl, ?_⟩, List.mem_cons_self⟩
    intro other isNew
    exact ⟨type, rfl, List.mem_singleton.mp isNew ▸ .refl⟩
  | failed reason =>
    obtain ⟨needed, asks, other, reaches, faulty⟩ := tells
    have needs := needs_of_registered registered asks
    refine ⟨walksOn, other, .head needs reaches, ?_⟩
    rcases faulty with busy | broken
    · rcases List.mem_cons.mp busy with rfl | earlier
      · exact .inr (.inr (.head' needs reaches))
      · exact .inl earlier
    · exact .inr broken
  | panicked payload interrupted => exact tells.elim

theorem Construction.Tells.cons {steps : List BuildStep} {created : List ServiceType}
    (tells : construction.Tells services stack steps created) (step : BuildStep)
    (obtained : ∀ needed, step = .get needed → needed ∈ created) :
    construction.Tells services stack (step :: steps) created := by
  cases construction with
  | constructed held =>
    intro needed asks
    rcases List.mem_cons.mp asks with isStep | later
    · exact obtained needed isStep.symm
    · exact tells needed later
  | failed reason =>
    obtain ⟨needed, asks, rest⟩ := tells
    exact ⟨needed, List.mem_cons_of_mem _ asks, rest⟩
  | panicked payload interrupted => exact tells

/-- What is walked from some steps is walked from more of them. -/
theorem Walks.cons {steps : List BuildStep} {after : List ServiceType}
    (walks : Walks services (fun needed => .get needed ∈ steps) before after)
    (step : BuildStep) :
    Walks services (fun needed => .get needed ∈ step :: steps) before after :=
  walks.reroot fun root asks => ⟨root, List.mem_cons_of_mem _ asks, .refl⟩

/-- What is walked from the type that a step asks for is walked from the steps. -/
theorem Walks.asked {other : ServiceType} {after : List ServiceType}
    (walks : Walks services (· = other) before after) (steps : List BuildStep) :
    Walks services (fun needed => .get needed ∈ .get other :: steps) before after :=
  walks.reroot fun root isRoot => ⟨root, by rw [isRoot]; exact List.mem_cons_self, .refl⟩

end Rules

mutual

theorem Resolves.walks {services : List Service} (plain : IsPlain services)
    {stack : List ServiceType} {type : ServiceType} {stock rest : Stock} {answer : Resolution}
    {visits : List Visit} :
    Resolves services stack type stock answer rest visits → stock.holdings.Sound stack →
      Layered services stock.holdings.created →
        Walks services (· = type) stock.holdings.created rest.holdings.created ∧
          answer.Tells services stack type rest.holdings.created
  | .held found, sound, layered => ⟨.refl layered, (sound.mem_created_iff _).mpr ⟨_, found⟩⟩
  | .cyclic missing busy, sound, layered => ⟨.refl layered, _, .refl, .inl busy⟩
  | .unregistered missing idle unknown, sound, layered =>
    ⟨.refl layered, _, .refl, .inr (.inl unknown)⟩
  | .ran construction missing idle registered builds, sound, layered => by
    have plainSteps := plain _ (mem_of_findService? registered).1
    obtain ⟨walks, tells⟩ := builds.walks plain (sound.push missing idle) layered plainSteps
    exact walks.construct registered tells

theorem Builds.walks {services : List Service} (plain : IsPlain services)
    {stack : List ServiceType} {type : ServiceType} {steps : List BuildStep}
    {dependencies : List (ServiceType × Nat)} {stock rest : Stock} {construction : Construction}
    {visits : List Visit} :
    Builds services type stack steps dependencies stock construction rest visits →
      stock.holdings.Sound stack → Layered services stock.holdings.created →
        (∀ step ∈ steps, step.IsPlain) →
          Walks services (fun needed => .get needed ∈ steps) stock.holdings.created
              rest.holdings.created ∧
            construction.Tells services stack steps rest.holdings.created
  | .finished made, sound, layered, plainSteps => ⟨.refl layered, nofun⟩
  | .obtained asks resolves builds, sound, layered, plainSteps => by
    obtain rfl := (plainSteps _ List.mem_cons_self).eq_get asks
    obtain ⟨first, isNew⟩ := resolves.walks plain sound layered
    obtain ⟨second, tells⟩ := builds.walks plain (resolves.answers sound).sound first.layered
      fun step isStep => plainSteps step (List.mem_cons_of_mem _ isStep)
    refine ⟨(first.asked _).trans (second.cons _), tells.cons _ ?_⟩
    intro needed isStep
    cases isStep
    exact second.kept isNew
  | .refused resolves, sound, layered, plainSteps => by
    obtain ⟨walks, faulty⟩ := resolves.walks plain sound layered
    exact ⟨walks.asked _, _, List.mem_cons_self, faulty⟩
  | .swallowed resolves builds, sound, layered, plainSteps =>
    (plainSteps _ List.mem_cons_self).elim
  | .interrupted asks resolves, sound, layered, plainSteps =>
    (resolves.walks plain sound layered).2.elim
  | .failed, sound, layered, plainSteps => (plainSteps _ List.mem_cons_self).elim
  | .panicked, sound, layered, plainSteps => (plainSteps _ List.mem_cons_self).elim
  | .noted builds, sound, layered, plainSteps => by
    obtain ⟨walks, tells⟩ := builds.walks plain sound layered
      fun step isStep => plainSteps step (List.mem_cons_of_mem _ isStep)
    exact ⟨walks.cons _, tells.cons _ nofun⟩

end

/-! ## What a scope can construct -/

namespace ContainerScope

namespace Life

/-- A scope that has only resolved types, and that no panic has interrupted. -/
structure Walked (life : Life) : Prop where
  sound : life.scope.Sound
  layered : Layered life.scope.services life.scope.holdings.created
  free : life.scope.resolving = []

theorem opened_walked (container : Container) (journal : Journal) :
    (opened container journal).Walked :=
  ⟨ofContainer_sound container, trivial, rfl⟩

/-- What resolving a type does, and what its answer says. -/
theorem Walked.resolve {life : Life} (walked : life.Walked)
    (plain : IsPlain life.scope.services) (type : ServiceType) :
    let resolved := life.scope.resolve type life.journal
    Walks life.scope.services (· = type) life.scope.holdings.created
        resolved.2.1.holdings.created ∧
      resolved.1.Tells life.scope.services [] type resolved.2.1.holdings.created := by
  obtain ⟨visits, resolves⟩ := resolve_resolves walked.sound type life.journal
  rw [walked.free] at resolves
  have sound := walked.sound
  rw [ContainerScope.Sound, walked.free] at sound
  exact resolves.walks plain sound walked.layered

theorem step_walked {life : Life} (walked : life.Walked) (plain : IsPlain life.scope.services)
    {turn : Turn} (alive : turn ≠ .dispose) : (life.step turn).Walked := by
  cases turn with
  | resolve type =>
    obtain ⟨walks, tells⟩ := walked.resolve plain type
    refine ⟨step_sound walked.sound (.resolve type), walks.layered, ?_⟩
    show (life.scope.resolve type life.journal).2.1.resolving = []
    rw [resolve_resolving walked.sound, walked.free]
    cases answer : (life.scope.resolve type life.journal).1 with
    | resolved held | failed failure => rfl
    | panicked payload interrupted =>
      rw [answer] at tells
      exact tells.elim
  | dispose => exact absurd rfl alive
  | others serials lines reports => exact ⟨walked.sound, walked.layered, walked.free⟩

theorem run_walked {life : Life} (walked : life.Walked) (plain : IsPlain life.scope.services)
    {turns : List Turn} (undisposed : .dispose ∉ turns) : (life.run turns).Walked := by
  induction turns generalizing life with
  | nil => exact walked
  | cons turn turns inductionHypothesis =>
    obtain ⟨first, rest⟩ := List.ne_and_not_mem_of_not_mem_cons undisposed
    have later : IsPlain (life.step turn).scope.services := by rwa [step_services]
    exact inductionHypothesis (step_walked walked plain first.symm) later rest

end Life

/-- If constructors only ask for other services, a scope that was not disposed resolves a
type exactly if all that it reaches is registered and nothing of it needs itself. Then it
has constructed what it reaches and was not constructed before, each once and after all
that it needs. -/
theorem resolves_iff_wellFounded (container : Container) (plain : IsPlain container.services)
    (journal : Journal) {turns : List Turn} (undisposed : .dispose ∉ turns)
    (type : ServiceType) :
    let services := container.services
    let life := (Life.opened container journal).run turns
    let before := life.scope.holdings.created
    let resolved := life.scope.resolve type life.journal
    ((∃ held, resolved.1 = .resolved held) ↔ ∀ other, Reaches services type other →
        findService? services other ≠ none ∧ ¬ TransGen (Needs services) other other) ∧
      ((∃ held, resolved.1 = .resolved held) →
        ∃ newer, resolved.2.1.holdings.created = newer ++ before ∧ newer.Nodup ∧
          (∀ other, other ∈ newer ↔ Reaches services type other ∧ other ∉ before) ∧
          ∀ later other earlier, newer = later ++ other :: earlier →
            ∀ needed, Needs services other needed → needed ∈ earlier ++ before) := by
  intro services life before resolved
  have registered : life.scope.services = services := Life.run_services _ turns
  have walked : life.Walked :=
    Life.run_walked (Life.opened_walked container journal) plain undisposed
  have after : resolved.2.1.Sound := Life.step_sound walked.sound (.resolve type)
  obtain ⟨walks, tells⟩ := walked.resolve (registered ▸ plain) type
  rw [registered] at walks tells
  have constructed : (∃ held, resolved.1 = .resolved held) →
      type ∈ resolved.2.1.holdings.created := by
    rintro ⟨held, isHeld⟩
    rwa [isHeld] at tells
  refine ⟨⟨?_, ?_⟩, ?_⟩
  · intro resolves other reaches
    have isCreated := walks.layered.reached (constructed resolves) reaches
    exact ⟨walks.layered.registered isCreated,
      walks.layered.acyclic after.created_nodup isCreated⟩
  · intro wellFounded
    cases answer : resolved.1 with
    | resolved held => exact ⟨held, rfl⟩
    | failed failure =>
      rw [answer] at tells
      obtain ⟨other, reaches, busy | unknown | cycle⟩ := tells
      · cases busy
      · exact absurd unknown (wellFounded other reaches).1
      · exact absurd cycle (wellFounded other reaches).2
    | panicked payload interrupted =>
      rw [answer] at tells
      exact tells.elim
  · intro resolves
    obtain ⟨newer, grown, reached⟩ := walks.grown
    have nodup := after.created_nodup
    have layered := walks.layered
    rw [grown] at nodup layered
    refine ⟨newer, grown, nodup.of_append_left, fun other => ⟨?_, ?_⟩, ?_⟩
    · intro isNew
      obtain ⟨root, rfl, reaches⟩ := reached other isNew
      exact ⟨reaches, fun isOld => List.disjoint_of_nodup_append nodup isNew isOld⟩
    · rintro ⟨reaches, isNew⟩
      have isCreated := walks.layered.reached (constructed resolves) reaches
      rw [grown] at isCreated
      exact (List.mem_append.mp isCreated).resolve_right isNew
    · rintro later other earlier rfl needed needs
      rw [List.append_assoc] at layered
      exact layered.of_append.2.1 needed needs

/-- A diamond of which one side has been constructed before. -/
theorem resolves_iff_wellFounded_diamond :
    let base : Service := ⟨⟨"Base", "B"⟩, [], .silent⟩
    let left : Service := ⟨⟨"Left", "L"⟩, [.get base.type], .silent⟩
    let right : Service := ⟨⟨"Right", "R"⟩, [.get base.type, .log "ready"], .silent⟩
    let top : Service := ⟨⟨"Top", "T"⟩, [.get left.type, .get right.type, .get left.type], .silent⟩
    let container : Container := ⟨[top, left, right, base]⟩
    let life := (Life.opened container (.ofSerial 0)).run [.resolve left.type]
    let resolved := life.scope.resolve top.type life.journal
    life.scope.holdings.created = [left.type, base.type] ∧
      ∃ newer, resolved.2.1.holdings.created = newer ++ [left.type, base.type] ∧
        ∀ other, other ∈ newer ↔
          Reaches container.services top.type other ∧ other ∉ [left.type, base.type] := by
  intro base left right top container life resolved
  have built := (resolves_iff_wellFounded container (by decide) (.ofSerial 0)
    (show .dispose ∉ [Turn.resolve left.type] by decide) top.type).2
  obtain ⟨newer, grown, -, reached, -⟩ := built ⟨_, rfl⟩
  exact ⟨rfl, newer, grown, reached⟩

end ContainerScope

end WorkHost
