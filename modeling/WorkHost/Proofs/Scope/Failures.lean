import Mathlib.Data.List.Chain
import WorkHost.Proofs.Scope.Panics
import WorkHost.Proofs.Work.Outcome

/-!
Contract: what the failure of a request tells.

A request fails at the first step that brings up a failure while no constructor under way
would swallow it (`Machine.Fatal`). From there on each constructor under way fails because
the next inner one has failed (`Awaits.unwinds`), and nothing else happens any more
(`Machine.Failing`). The message is that of the fatal step, wrapped once for each of these
constructors: `failures_name_their_path`.
-/

namespace WorkHost

open Relation

/-- What a failure goes back to. -/
inductive RootCause where
  /-- Nothing is registered for the type. -/
  | unregistered (type : ServiceType)
  /-- The type is under construction already. -/
  | cyclic (type : ServiceType)
  /-- The constructor of the type has failed by itself. -/
  | own (type : ServiceType) (root : String) (contexts : List String)
deriving DecidableEq, Repr

namespace RootCause

def type : RootCause → ServiceType
  | .unregistered type | .cyclic type | .own type _ _ => type

/-- What the request for the type of the cause fails with. -/
def failure : RootCause → Failure
  | .unregistered type => .resolve type.name
  | .cyclic type => Resolution.cycle type
  | .own type root contexts => Resolution.constructionFailed type (Failure.chain root contexts)

/-- An error of a constructor shows its contexts, the outermost first. -/
def text : RootCause → String
  | .unregistered type => "no scoped registration for " ++ type.name
  | .cyclic type => "scope error: dependency cycle while resolving " ++ type.name
  | .own type root contexts =>
    "scope error: failed to construct " ++ type.name ++ ": " ++
      ": ".intercalate (contexts.reverse ++ [root])

/-- There is reason for the cause while the types `busy` are under construction. -/
def Arises (services : List Service) (busy : List ServiceType) : RootCause → Prop
  | .unregistered type => findService? services type = none
  | .cyclic type => type ∈ busy
  | .own type root contexts =>
    ∃ service, findService? services type = some service ∧ .fail root contexts ∈ service.steps

end RootCause

/-- The message of a constructor of the type that failed because of what it asked for. -/
def wrapped (type : ServiceType) (reason : String) : String :=
  "scope error: failed to construct " ++ type.name ++ ": " ++ reason

theorem Resolution.constructionFailed_message (type : ServiceType) (reason : String) :
    (constructionFailed type reason).message = wrapped type reason := by
  show "scope error: " ++ ("failed to construct " ++ type.name ++ ": " ++ reason) =
    "scope error: failed to construct " ++ type.name ++ ": " ++ reason
  simp [← String.append_assoc]

theorem RootCause.failure_message (cause : RootCause) : cause.failure.message = cause.text := by
  cases cause with
  | unregistered type => rfl
  | cyclic type =>
    show "scope error: " ++ ("dependency cycle while resolving " ++ type.name) =
      "scope error: dependency cycle while resolving " ++ type.name
    simp [← String.append_assoc]
  | own type root contexts =>
    rw [failure, Resolution.constructionFailed_message, Failure.chain_eq_intercalate]
    rfl

theorem RootCause.failure_kind {services : List Service} {stuck : List ServiceType}
    (cause : RootCause) (arises : cause.Arises services stuck)
    (registered : ∀ other ∈ stuck, findService? services other ≠ none) :
    cause.failure.kind =
      if findService? services cause.type = none then "Resolve" else "Scope" := by
  cases cause with
  | unregistered type => exact (if_pos arises).symm
  | cyclic type => exact (if_neg (registered type arises)).symm
  | own type root contexts =>
    obtain ⟨service, isRegistered, -⟩ := arises
    have known : findService? services type ≠ none := by
      rw [isRegistered]
      exact Option.some_ne_none service
    exact (if_neg known).symm

/-- The constructor stands at a request whose failure it would swallow. -/
def Frame.Swallows (frame : Frame) : Prop := ∃ other, frame.steps.head? = some (.tryGet other)

namespace Machine

/-- The next step brings up a failure. -/
inductive Fails (services : List Service) : Machine → RootCause → Prop where
  | unregistered {frames : List Frame} {resolving : List ServiceType} {stock : Stock}
    {type : ServiceType} :
    stock.holdings.find? type = none → type ∉ resolving → findService? services type = none →
      Fails services ⟨frames, resolving, stock, .asking type⟩ (.unregistered type)
  | cyclic {frames : List Frame} {resolving : List ServiceType} {stock : Stock}
    {type : ServiceType} :
    stock.holdings.find? type = none → type ∈ resolving →
      Fails services ⟨frames, resolving, stock, .asking type⟩ (.cyclic type)
  | own {type : ServiceType} {root : String} {contexts : List String} {steps : List BuildStep}
    {dependencies : List (ServiceType × Nat)} {outer : List Frame}
    {resolving : List ServiceType} {stock : Stock} :
    Fails services
      ⟨⟨type, .fail root contexts :: steps, dependencies⟩ :: outer, resolving, stock, .building⟩
      (.own type root contexts)

/-- The next step brings up a failure that no constructor under way would swallow. -/
structure Fatal (services : List Service) (machine : Machine) (cause : RootCause) : Prop where
  fails : machine.Fails services cause
  exposed : ∀ frame ∈ machine.frames, ¬ frame.Swallows

/-- A failure goes through all constructors that are under way. -/
structure Failing (machine : Machine) : Prop where
  returns : ∃ failure, machine.task = .returning (.error failure)
  insist : ∀ frame ∈ machine.frames, ∃ other, frame.steps.head? = some (.get other)

/-- After a moment the constructor of the type fails because it gets a failure when it asks
for the other one. -/
def FailsFor (services : List Service) (earlier : Machine) (type other : ServiceType) : Prop :=
  ∃ frame outer resolving stock failure,
    frame.type = type ∧ frame.Placed services ∧ frame.steps.head? = some (.get other) ∧
      earlier.Runs services ⟨frame :: outer, resolving, stock, .returning (.error failure)⟩ ∧
      step services ⟨frame :: outer, resolving, stock, .returning (.error failure)⟩ =
        some ⟨outer, resolving.tail, stock,
          .returning (.error (Resolution.constructionFailed type failure.message))⟩

section Steps

variable {services : List Service} {before resolving : List ServiceType}
  {root type other : ServiceType} {frames outer : List Frame} {frame : Frame} {stock : Stock}
  {machine next first last fatal : Machine} {cause : RootCause} {failure : Failure}

theorem step_insists (insists : frame.steps.head? = some (.get other)) :
    step services ⟨frame :: outer, resolving, stock, .returning (.error failure)⟩ =
      some ⟨outer, resolving.tail, stock,
        .returning (.error (Resolution.constructionFailed frame.type failure.message))⟩ := by
  obtain ⟨type, _ | ⟨step, steps⟩, dependencies⟩ := frame
  · cases insists
  · cases insists
    rfl

/-! ## On the way out -/

theorem step_failing (failing : machine.Failing) (steps : machine.step services = some next) :
    next.Failing := by
  obtain ⟨frames, resolving, stock, task⟩ := machine
  obtain ⟨⟨failure, returns⟩, insist⟩ := failing
  cases returns
  cases frames with
  | nil => cases steps
  | cons frame outer =>
    obtain ⟨⟨other, insists⟩, others⟩ := List.forall_mem_cons.mp insist
    cases (step_insists insists).symm.trans steps
    exact ⟨⟨_, rfl⟩, others⟩

theorem run_failing (failing : machine.Failing) (runs : machine.Runs services next) :
    next.Failing := by
  induction runs with
  | refl => exact failing
  | tail runs steps inductionHypothesis => exact step_failing inductionHypothesis steps

theorem Fails.not_failing (fails : machine.Fails services cause) : ¬ machine.Failing := by
  rintro ⟨⟨failure, returns⟩, -⟩
  cases fails <;> cases returns

/-- Constructors that wait and swallow nothing insist on what they wait for. -/
theorem insist_of_awaits (awaits : Awaits root frames type)
    (exposed : ∀ frame ∈ frames, ¬ frame.Swallows) :
    ∀ frame ∈ frames, ∃ other, frame.steps.head? = some (.get other) := by
  induction awaits with
  | root => exact nofun
  | @nested frame outer other awaits waits inductionHypothesis =>
    obtain ⟨visible, others⟩ := List.forall_mem_cons.mp exposed
    refine List.forall_mem_cons.mpr ⟨?_, inductionHypothesis others⟩
    obtain ⟨step, isFirst, asks⟩ := Option.bind_eq_some_iff.mp waits
    cases step with
    | get wanted => exact ⟨wanted, isFirst⟩
    | tryGet wanted => exact absurd ⟨wanted, isFirst⟩ visible
    | fail root contexts | panic message | log text => cases asks

/-- What a fatal step does. -/
theorem Fatal.step (fatally : fatal.Fatal services cause)
    (orderly : fatal.Orderly services before root) :
    ∃ frames, fatal.step services = some ⟨frames, frames.map Frame.type ++ before, fatal.stock,
        .returning (.error cause.failure)⟩ ∧
      Awaits root frames cause.type ∧ (∀ frame ∈ frames, frame.Placed services) ∧
      (∀ frame ∈ frames, ∃ other, frame.steps.head? = some (.get other)) ∧
      cause.Arises services (frames.map Frame.type ++ before) := by
  obtain ⟨fails, exposed⟩ := fatally
  have stacked := orderly.stacked
  cases fails with
  | unregistered missing idle unknown =>
    refine ⟨_, ?_, orderly.linked, orderly.placed, insist_of_awaits orderly.linked exposed, unknown⟩
    rw [← stacked]
    exact step_unregistered missing idle unknown
  | cyclic missing busy =>
    refine ⟨_, ?_, orderly.linked, orderly.placed, insist_of_awaits orderly.linked exposed,
      stacked ▸ busy⟩
    rw [← stacked]
    exact step_cyclic missing busy
  | @own type text contexts steps dependencies outer resolving stock =>
    have stacked : resolving = type :: (outer.map Frame.type ++ before) := orderly.stacked
    subst stacked
    obtain ⟨⟨service, registered, left⟩, placed⟩ := List.forall_mem_cons.mp orderly.placed
    have insist := insist_of_awaits orderly.awaits (List.forall_mem_cons.mp exposed).2
    exact ⟨outer, rfl, orderly.awaits, placed, insist, service, registered,
      left.subset List.mem_cons_self⟩

end Steps

end Machine

/-- The failure as it comes out of constructors that fail because of it. -/
def Failure.through (failure : Failure) (frames : List Frame) : Failure :=
  frames.foldl (fun inner frame => Resolution.constructionFailed frame.type inner.message) failure

theorem Failure.through_message (failure : Failure) (frames : List Frame) :
    (failure.through frames).message =
      (frames.map Frame.type).reverse.foldr wrapped failure.message := by
  induction frames generalizing failure with
  | nil => rfl
  | cons frame outer inductionHypothesis =>
    rw [through, List.foldl_cons, ← through, inductionHypothesis,
      Resolution.constructionFailed_message, List.map_cons, List.reverse_cons, List.foldr_append]
    rfl

/-- One constructor is enough to make it the failure of a scope. -/
theorem Failure.through_kind {failure : Failure} {frames : List Frame}
    (isScope : failure.kind = "Scope" ∨ frames ≠ []) : (failure.through frames).kind = "Scope" := by
  induction frames generalizing failure with
  | nil => exact isScope.resolve_right (by simp)
  | cons frame outer inductionHypothesis => exact inductionHypothesis (.inl rfl)

section Unwinding

variable {services : List Service} {before : List ServiceType} {root type : ServiceType}
  {frames : List Frame} {stock : Stock} {failure : Failure} {earlier : Machine}

/-- The first request is that which the outermost constructor was started for. -/
theorem Awaits.getLast? (awaits : Awaits root frames type) :
    (type :: frames.map Frame.type).getLast? = some root := by
  induction awaits with
  | root => rfl
  | nested awaits waits inductionHypothesis => exact inductionHypothesis

/-- A failure that nobody swallows comes out of the request, and each of the constructors
under way fails for it. -/
theorem Awaits.unwinds (awaits : Awaits root frames type)
    (placed : ∀ frame ∈ frames, frame.Placed services)
    (insist : ∀ frame ∈ frames, ∃ other, frame.steps.head? = some (.get other))
    (runs : earlier.Runs services
      ⟨frames, frames.map Frame.type ++ before, stock, .returning (.error failure)⟩) :
    earlier.Runs services ⟨[], before, stock, .returning (.error (failure.through frames))⟩ ∧
      (type :: frames.map Frame.type).IsChain
        fun inner outer => earlier.FailsFor services outer inner := by
  induction awaits generalizing failure with
  | root => exact ⟨runs, .singleton _⟩
  | @nested frame outer other awaits waits inductionHypothesis =>
    obtain ⟨isPlaced, placed⟩ := List.forall_mem_cons.mp placed
    obtain ⟨⟨wanted, insists⟩, insist⟩ := List.forall_mem_cons.mp insist
    have same : wanted = other := by
      rw [Frame.awaited?, insists] at waits
      exact Option.some.inj waits
    subst same
    have steps : Machine.step services ⟨frame :: outer, (frame :: outer).map Frame.type ++ before,
        stock, .returning (.error failure)⟩ = some ⟨outer, outer.map Frame.type ++ before, stock,
          .returning (.error (Resolution.constructionFailed frame.type failure.message))⟩ :=
      Machine.step_insists insists
    obtain ⟨ends, chain⟩ := inductionHypothesis placed insist (runs.tail steps)
    have fails : earlier.FailsFor services frame.type wanted :=
      ⟨frame, outer, _, stock, failure, rfl, isPlaced, insists, runs, steps⟩
    exact ⟨ends, List.isChain_cons_cons.mpr ⟨fails, chain⟩⟩

end Unwinding

/-! ## The fatal step -/

namespace Machine

section Fatal

variable {services : List Service} {before : List ServiceType} {root : ServiceType}
  {machine next start fatal other last : Machine} {cause another : RootCause}

theorem exposed_of_insist {frames : List Frame}
    (insist : ∀ frame ∈ frames, ∃ other, frame.steps.head? = some (.get other)) :
    ∀ frame ∈ frames, ¬ frame.Swallows := by
  rintro frame isFrame ⟨swallowed, isFirst⟩
  obtain ⟨wanted, insists⟩ := insist frame isFrame
  cases insists.symm.trans isFirst

/-- A failure that goes through everything comes from a fatal step. -/
theorem fatal_of_step (orderly : machine.Orderly services before root)
    (steps : machine.step services = some next) (calm : ¬ machine.Failing)
    (failing : next.Failing) : ∃ cause, machine.Fatal services cause := by
  obtain ⟨⟨failure, returns⟩, insist⟩ := failing
  obtain ⟨frames, resolving, stock, task⟩ := machine
  cases task with
  | asking type =>
    cases found : stock.holdings.find? type with
    | some held =>
      cases (step_held found).symm.trans steps
      cases returns
    | none =>
      by_cases busy : type ∈ resolving
      · cases (step_cyclic found busy).symm.trans steps
        exact ⟨_, .cyclic found busy, exposed_of_insist insist⟩
      · cases registered : findService? services type with
        | none =>
          cases (step_unregistered found busy registered).symm.trans steps
          exact ⟨_, .unregistered found busy registered, exposed_of_insist insist⟩
        | some service =>
          cases (step_enter found busy registered).symm.trans steps
          cases returns
  | building =>
    obtain ⟨⟨type, waiting, dependencies⟩, outer, rfl, -⟩ := orderly.linked
    rcases waiting with _ | ⟨step, waiting⟩
    · cases steps
      cases returns
    · cases step with
      | get wanted | tryGet wanted | panic message | log text =>
        cases steps
        cases returns
      | fail text contexts =>
        cases steps
        refine ⟨_, .own, List.forall_mem_cons.mpr ⟨?_, exposed_of_insist insist⟩⟩
        rintro ⟨wanted, isFirst⟩
        cases isFirst
  | returning answer =>
    obtain ⟨type, awaits, typed⟩ := orderly.linked
    cases awaits with
    | root => cases steps
    | @nested frame outer _ awaits waits =>
      obtain ⟨built, _ | ⟨step, waiting⟩, dependencies⟩ := frame
      · cases waits
      cases step with
      | get wanted =>
        cases waits
        cases answer with
        | ok held =>
          cases (step_obtained rfl (typed held rfl)).symm.trans steps
          cases returns
        | error failure =>
          cases steps
          exact absurd ⟨⟨failure, rfl⟩, List.forall_mem_cons.mpr ⟨⟨_, rfl⟩, insist⟩⟩ calm
      | tryGet wanted =>
        cases waits
        cases answer with
        | ok held =>
          cases (step_obtained rfl (typed held rfl)).symm.trans steps
          cases returns
        | error failure =>
          cases steps
          cases returns
      | fail text contexts | panic message | log text => cases waits
  | panicking payload => cases steps

/-- Before everything fails there is a fatal step. -/
theorem exists_fatal (orderly : start.Orderly services before root) (calm : ¬ start.Failing)
    (runs : start.Runs services last) (failing : last.Failing) :
    ∃ fatal cause, start.Runs services fatal ∧ fatal.Fatal services cause := by
  induction runs with
  | refl => exact absurd failing calm
  | @tail middle last runs steps inductionHypothesis =>
    by_cases already : middle.Failing
    · exact inductionHypothesis already
    · obtain ⟨cause, fatally⟩ := fatal_of_step (run_orderly orderly runs) steps already failing
      exact ⟨middle, cause, runs, fatally⟩

theorem Fails.unique (fails : machine.Fails services cause)
    (fails' : machine.Fails services another) : cause = another := by
  cases fails with
  | unregistered missing idle unknown =>
    cases fails' with
    | unregistered => rfl
    | cyclic _ busy => exact absurd busy idle
  | cyclic missing busy =>
    cases fails' with
    | unregistered _ idle => exact absurd busy idle
    | cyclic => rfl
  | own =>
    cases fails'
    rfl

/-- After a fatal step there is no second one. -/
theorem Fatal.eq_of_runs (fatally : fatal.Fatal services cause)
    (orderly : fatal.Orderly services before root) (runs : fatal.Runs services other)
    (again : other.Fatal services another) : other = fatal := by
  rcases runs.cases_head with same | ⟨next, steps, later⟩
  · exact same.symm
  · obtain ⟨frames, steps', -, -, insist, -⟩ := fatally.step orderly
    cases steps.symm.trans steps'
    exact absurd (run_failing ⟨⟨_, rfl⟩, insist⟩ later) again.fails.not_failing

theorem Fatal.unique (orderly : start.Orderly services before root)
    (runs : start.Runs services fatal) (fatally : fatal.Fatal services cause)
    (others : start.Runs services other) (again : other.Fatal services another) :
    other = fatal ∧ another = cause := by
  have same : other = fatal := by
    rcases runs.total others with later | later
    · exact fatally.eq_of_runs (run_orderly orderly runs) later again
    · exact (again.eq_of_runs (run_orderly orderly others) later fatally).symm
  subst same
  exact ⟨rfl, again.fails.unique fatally.fails⟩

end Fatal

end Machine

/-! ## The message -/

/-- Why a request for the type has failed: the cause, and the types of the constructors that
were waiting for it, the outermost first. -/
structure FailurePath (services : List Service) (stuck : List ServiceType) (type : ServiceType)
    (fatal : Machine) (cause : RootCause) (waiting : List ServiceType) (failure : Failure) :
    Prop where
  starts : (waiting ++ [cause.type]).head? = some type
  /-- Each constructor fails because it asks for the next type. -/
  chain : (waiting ++ [cause.type]).IsChain (fatal.FailsFor services)
  arises : cause.Arises services (waiting ++ stuck)
  message : failure.message = waiting.foldr wrapped cause.text
  kind : failure.kind = if findService? services type = none then "Resolve" else "Scope"

theorem Machine.Fatal.path {services : List Service} {stuck : List ServiceType}
    {type : ServiceType} {fatal : Machine} {cause : RootCause}
    (fatally : fatal.Fatal services cause) (orderly : fatal.Orderly services stuck type)
    (registered : ∀ other ∈ stuck, findService? services other ≠ none) :
    ∃ waiting failure,
      fatal.Ends services ⟨[], stuck, fatal.stock, .returning (.error failure)⟩ ∧
        FailurePath services stuck type fatal cause waiting failure := by
  obtain ⟨frames, steps, awaits, placed, insist, arises⟩ := fatally.step orderly
  obtain ⟨runs, chain⟩ := awaits.unwinds placed insist (.single steps)
  have path : (frames.map Frame.type).reverse ++ [cause.type] =
      (cause.type :: frames.map Frame.type).reverse := List.reverse_cons.symm
  refine ⟨(frames.map Frame.type).reverse, _, ⟨runs, rfl⟩, ?_, ?_, ?_, ?_, ?_⟩
  · rw [path, List.head?_reverse, awaits.getLast?]
  · rw [path, List.isChain_reverse]
    exact chain
  · cases cause with
    | unregistered missing => exact arises
    | cyclic busy => simpa [RootCause.Arises] using arises
    | own built text contexts => exact arises
  · rw [Failure.through_message, RootCause.failure_message]
  · cases awaits with
    | root => exact cause.failure_kind arises registered
    | @nested frame outer _ awaits waits =>
      have isStarted : type ∈ (frame :: outer).map Frame.type :=
        List.mem_of_getLast? awaits.getLast?
      obtain ⟨started, isFrame, rfl⟩ := List.mem_map.mp isStarted
      obtain ⟨service, isRegistered, -⟩ := placed started isFrame
      rw [Failure.through_kind (.inr (List.cons_ne_nil _ _)), isRegistered, if_neg nofun]

namespace ContainerScope

/-- A fatal step decides what becomes of the request. -/
theorem resolve_of_fatal {scope : ContainerScope} (sound : scope.Sound)
    (registered : ∀ other ∈ scope.resolving, findService? scope.services other ≠ none)
    {type : ServiceType} {journal : Journal} {fatal : Machine} {cause : RootCause}
    (runs : (Machine.start scope type journal).Runs scope.services fatal)
    (fatally : fatal.Fatal scope.services cause) :
    ∃ waiting failure, (scope.resolve type journal).1 = .failed failure ∧
      FailurePath scope.services scope.resolving type fatal cause waiting failure := by
  have orderly := Machine.run_orderly (Machine.start_orderly sound type journal) runs
  obtain ⟨waiting, failure, fails, path⟩ := fatally.path orderly registered
  obtain ⟨last, ends, yields⟩ := resolve_ends sound type journal
  have outcome := yields.outcome
  rw [(ends.of_runs runs).unique fails] at outcome
  exact ⟨waiting, failure, (Option.some.inj outcome).symm, path⟩

theorem fatal_of_resolve {scope : ContainerScope} (sound : scope.Sound) {type : ServiceType}
    {journal : Journal} {failure : Failure}
    (fails : (scope.resolve type journal).1 = .failed failure) :
    ∃ fatal cause, (Machine.start scope type journal).Runs scope.services fatal ∧
      fatal.Fatal scope.services cause := by
  obtain ⟨⟨frames, resolving, stock, task⟩, ends, outcome, -⟩ := resolve_ends sound type journal
  rw [fails] at outcome
  refine Machine.exists_fatal (Machine.start_orderly sound type journal) ?_ ends.runs ?_
  · rintro ⟨⟨failure, returns⟩, -⟩
    cases returns
  · rcases task with _ | _ | ⟨failure | held⟩ | _ <;> rcases frames with _ | ⟨frame, outer⟩ <;>
      cases outcome
    exact ⟨⟨_, rfl⟩, nofun⟩

/-- Whatever the owner of a scope has asked of it: the next request fails if and only if it
comes to a step that brings up a failure which no constructor under way would swallow. There
is one such step at most. From the type that was requested a chain of constructors, each of
which fails because it gets a failure when it asks for the next type, leads to that step:
the last type is unregistered, or under construction already, or its constructor fails by
itself. The message tells the chain and then the cause; the kind tells whether the type that
was requested is registered. -/
theorem failures_name_their_path (container : Container) (journal : Journal) (turns : List Turn)
    (type : ServiceType) :
    let services := container.services
    let life := (Life.opened container journal).run turns
    let stuck := life.scope.resolving
    let start := Machine.start life.scope type life.journal
    let resolved := life.scope.resolve type life.journal
    (∀ failure, resolved.1 = .failed failure →
      ∃ fatal cause waiting, start.Runs services fatal ∧ fatal.Fatal services cause ∧
        (∀ machine other, start.Runs services machine → machine.Fatal services other →
          machine = fatal ∧ other = cause) ∧
        FailurePath services stuck type fatal cause waiting failure) ∧
    ∀ fatal cause, start.Runs services fatal → fatal.Fatal services cause →
      ∃ failure, resolved.1 = .failed failure := by
  intro services life stuck start resolved
  have opened : (Life.opened container journal).scope.Sound := ofContainer_sound container
  have sound : life.scope.Sound := Life.run_sound opened turns
  have registered : ∀ other ∈ stuck, findService? services other ≠ none :=
    fun other => Life.registered_of_mem_resolving
  have same : life.scope.services = services := Life.run_services _ turns
  rw [← same] at registered ⊢
  constructor
  · intro failure fails
    obtain ⟨fatal, cause, runs, fatally⟩ := fatal_of_resolve sound fails
    obtain ⟨waiting, failure', fails', path⟩ := resolve_of_fatal sound registered runs fatally
    cases fails.symm.trans fails'
    refine ⟨fatal, cause, waiting, runs, fatally, ?_, path⟩
    intro machine other
    exact Machine.Fatal.unique (Machine.start_orderly sound type life.journal) runs fatally
  · intro fatal cause runs fatally
    obtain ⟨waiting, failure, fails, -⟩ := resolve_of_fatal sound registered runs fatally
    exact ⟨failure, fails⟩

/-- A failure that is swallowed, and then one that is not. -/
theorem failures_name_their_path_of_nested :
    let cache : Service := ⟨⟨"Cache", "C"⟩, [.fail "no memory" []], .silent⟩
    let store : Service := ⟨⟨"Store", "S"⟩, [.fail "refused" ["cannot connect"]], .silent⟩
    let app : Service := ⟨⟨"App", "A"⟩, [.tryGet cache.type, .get store.type], .silent⟩
    let scope := ofContainer ⟨[cache, store, app]⟩
    let start := Machine.start scope app.type (.ofSerial 0)
    let reason := "failed to construct App: " ++
      "scope error: failed to construct Store: cannot connect: refused"
    ∃ fatal cause waiting, start.Runs scope.services fatal ∧ fatal.Fatal scope.services cause ∧
      FailurePath scope.services [] app.type fatal cause waiting (.scope reason) := by
  intro cache store app scope start reason
  have fails : (scope.resolve app.type (.ofSerial 0)).1 = .failed (.scope reason) := by decide
  obtain ⟨fatal, cause, waiting, runs, fatally, -, path⟩ :=
    (failures_name_their_path ⟨[cache, store, app]⟩ (.ofSerial 0) [] app.type).1 _ fails
  exact ⟨fatal, cause, waiting, runs, fatally, path⟩

end ContainerScope

end WorkHost
