import WorkHost.Proofs.Scope.Standing

/-!
Contract: one instance of each type, for as long as a scope is not disposed.

A resolution, nested or not, adds the newest instances and withdraws none
(`Resolves.grows`), whatever comes of it. Between two disposals the visits of the scope are
those of its resolutions one after the other (`Life.Visits`); each type follows its standing
through all of them (`Life.Visits.follows`). What that means for its constructor and for
those who ask for it is said in `one_instance_per_type`.
-/

namespace WorkHost

/-! ## What a resolution answers -/

theorem Resolves.find?_of_resolved {services : List Service} {stack : List ServiceType}
    {type : ServiceType} {stock rest : Stock} {answer : Resolution} {visits : List Visit}
    (resolves : Resolves services stack type stock answer rest visits) {held : Instance}
    (gives : answer = .resolved held) : rest.holdings.find? type = some held := by
  cases resolves with
  | held found =>
    cases gives
    exact found
  | cyclic | unregistered => cases gives
  | ran construction missing idle registered builds =>
    cases construction with
    | constructed held =>
      cases gives
      exact Holdings.find?_add_self _ _ _
    | failed reason | panicked payload interrupted => cases gives

theorem Resolves.resolved_of_find? {services : List Service} {stack : List ServiceType}
    {type : ServiceType} {stock rest : Stock} {answer : Resolution} {visits : List Visit}
    (resolves : Resolves services stack type stock answer rest visits) {held : Instance}
    (found : stock.holdings.find? type = some held) : answer = .resolved held := by
  cases resolves with
  | held other =>
    cases found.symm.trans other
    rfl
  | cyclic missing | unregistered missing | ran _ missing => cases found.symm.trans missing

/-- The last visit of a resolution is the one that answers it. -/
theorem Resolves.visits_eq {services : List Service} {stack : List ServiceType}
    {type : ServiceType} {stock rest : Stock} {answer : Resolution} {visits : List Visit}
    (resolves : Resolves services stack type stock answer rest visits) :
    ∃ earlier last, visits = earlier ++ [last] ∧ last.type = type ∧ last.answer? = some answer := by
  cases resolves with
  | held | cyclic | unregistered => exact ⟨[], _, rfl, rfl, rfl⟩
  | ran => exact ⟨_, _, rfl, rfl, rfl⟩

/-! ## What a resolution keeps -/

/-- The newest instances are added to those that are held, and none is withdrawn. -/
structure Holdings.Grows (before after : Holdings) : Prop where
  newer : ∃ newer, after.created = newer ++ before.created
  kept (type : ServiceType) (held : Instance) :
    before.find? type = some held → after.find? type = some held

namespace Holdings.Grows

variable {before middle after : Holdings}

theorem refl (holdings : Holdings) : holdings.Grows holdings := ⟨⟨[], rfl⟩, fun _ _ => id⟩

theorem trans (grows : before.Grows middle) (more : middle.Grows after) :
    before.Grows after := by
  obtain ⟨newer, isNewer⟩ := grows.newer
  obtain ⟨newest, isNewest⟩ := more.newer
  refine ⟨⟨newest ++ newer, by rw [isNewest, isNewer, List.append_assoc]⟩, ?_⟩
  intro type held found
  exact more.kept type held (grows.kept type held found)

/-- What becomes of a constructor that was started adds to what was held before. -/
theorem keep {type : ServiceType} {rest : Stock} (missing : before.find? type = none)
    (grows : before.Grows rest.holdings) (construction : Construction) :
    before.Grows (construction.keep type rest).holdings := by
  cases construction with
  | constructed held =>
    obtain ⟨newer, isNewer⟩ := grows.newer
    refine ⟨⟨type :: newer, congrArg (type :: ·) isNewer⟩, ?_⟩
    intro other given found
    have different : other ≠ type := by
      rintro rfl
      cases missing.symm.trans found
    exact (find?_add_of_ne _ different held).trans (grows.kept other given found)
  | failed reason | panicked payload interrupted => exact grows

end Holdings.Grows

mutual

theorem Resolves.grows {services : List Service} {stack : List ServiceType}
    {type : ServiceType} {stock rest : Stock} {answer : Resolution} {visits : List Visit} :
    Resolves services stack type stock answer rest visits → stock.holdings.Grows rest.holdings
  | .held .. | .cyclic .. | .unregistered .. => .refl _
  | .ran construction missing idle registered builds => builds.grows.keep missing construction

theorem Builds.grows {services : List Service} {stack : List ServiceType}
    {type : ServiceType} {steps : List BuildStep} {dependencies : List (ServiceType × Nat)}
    {stock rest : Stock} {construction : Construction} {visits : List Visit} :
    Builds services type stack steps dependencies stock construction rest visits →
      stock.holdings.Grows rest.holdings
  | .obtained asks resolves builds => resolves.grows.trans builds.grows
  | .refused resolves | .interrupted asks resolves => resolves.grows
  | .swallowed resolves builds => resolves.grows.trans builds.grows
  | .noted builds => builds.grows
  | .finished .. | .failed | .panicked => .refl _

end

namespace ContainerScope

namespace Life

theorem resolve_grows {life : Life} (sound : life.scope.Sound) (type : ServiceType) :
    life.scope.holdings.Grows (life.step (.resolve type)).scope.holdings := by
  obtain ⟨visits, resolves⟩ := resolve_resolves sound type life.journal
  exact resolves.grows

theorem run_sound {life : Life} (sound : life.scope.Sound) (turns : List Turn) :
    (life.run turns).scope.Sound := by
  induction turns generalizing life with
  | nil => exact sound
  | cons turn turns inductionHypothesis => exact inductionHypothesis (step_sound sound turn)

/-- What is held stays held until the scope is disposed. -/
theorem run_keeps {life : Life} (sound : life.scope.Sound) {turns : List Turn}
    (undisposed : .dispose ∉ turns) {type : ServiceType} {held : Instance}
    (found : life.scope.holdings.find? type = some held) :
    (life.run turns).scope.holdings.find? type = some held := by
  induction turns generalizing life with
  | nil => exact found
  | cons turn turns inductionHypothesis =>
    obtain ⟨first, rest⟩ := List.ne_and_not_mem_of_not_mem_cons undisposed
    apply inductionHypothesis (step_sound sound turn) rest
    cases turn with
    | resolve other => exact (resolve_grows sound other).kept type held found
    | dispose => exact absurd rfl first
    | others serials lines reports => exact found

theorem find?_of_resolved {life : Life} (sound : life.scope.Sound) {type : ServiceType}
    {held : Instance} (gives : (life.scope.resolve type life.journal).1 = .resolved held) :
    (life.step (.resolve type)).scope.holdings.find? type = some held := by
  obtain ⟨visits, resolves⟩ := resolve_resolves sound type life.journal
  exact resolves.find?_of_resolved gives

theorem resolved_of_find? {life : Life} (sound : life.scope.Sound) {type : ServiceType}
    {held : Instance} (found : life.scope.holdings.find? type = some held) :
    (life.scope.resolve type life.journal).1 = .resolved held := by
  obtain ⟨visits, resolves⟩ := resolve_resolves sound type life.journal
  exact resolves.resolved_of_find? found

/-! ## The visits of a life -/

/-- The visits in a scope while types are resolved one after the other, and others do what
they do; there are none if the scope is disposed. -/
inductive Visits : Life → List Turn → List Visit → Prop where
  | nil {life : Life} : Visits life [] []
  | resolve {life : Life} {type : ServiceType} {turns : List Turn} {visits more : List Visit} :
    Resolves life.scope.services life.scope.resolving type ⟨life.scope.holdings, life.journal⟩
      (life.scope.resolve type life.journal).1
      ⟨(life.step (.resolve type)).scope.holdings, (life.step (.resolve type)).journal⟩ visits →
      Visits (life.step (.resolve type)) turns more →
        Visits life (.resolve type :: turns) (visits ++ more)
  | others {life : Life} {serials : Nat} {lines : List String} {reports : List Report}
    {turns : List Turn} {visits : List Visit} :
    Visits (life.step (.others serials lines reports)) turns visits →
      Visits life (.others serials lines reports :: turns) visits

namespace Visits

theorem exists_of_sound {life : Life} (sound : life.scope.Sound) {turns : List Turn}
    (undisposed : .dispose ∉ turns) : ∃ visits, life.Visits turns visits := by
  induction turns generalizing life with
  | nil => exact ⟨[], .nil⟩
  | cons turn turns inductionHypothesis =>
    obtain ⟨first, rest⟩ := List.ne_and_not_mem_of_not_mem_cons undisposed
    obtain ⟨more, later⟩ := inductionHypothesis (step_sound sound turn) rest
    cases turn with
    | resolve type =>
      obtain ⟨visits, resolves⟩ := resolve_resolves sound type life.journal
      exact ⟨visits ++ more, .resolve resolves later⟩
    | dispose => exact absurd rfl first
    | others serials lines reports => exact ⟨more, .others later⟩

theorem unique {life : Life} {turns : List Turn} {visits visits' : List Visit}
    (first : life.Visits turns visits) (second : life.Visits turns visits') :
    visits = visits' := by
  induction first generalizing visits' with
  | nil =>
    cases second
    rfl
  | resolve resolves later inductionHypothesis =>
    cases second with
    | resolve resolves' later' =>
      rw [(resolves.unique resolves').2.2, inductionHypothesis later']
  | others later inductionHypothesis =>
    cases second with
    | others later' => exact inductionHypothesis later'

/-- Between the turns no constructor is under way, and each type follows its standing from
one to the next. -/
theorem follows {life : Life} {turns : List Turn} {visits : List Visit}
    (visited : life.Visits turns visits) (sound : life.scope.Sound) (type : ServiceType)
    {standing : Standing} (calm : standing ≠ .busy)
    (fits : standing.Fits life.scope.services life.scope.resolving life.scope.holdings type) :
    ∃ after, Standing.Follows type standing visits after ∧ after ≠ .busy := by
  induction visited generalizing standing with
  | nil => exact ⟨standing, .nil, calm⟩
  | @resolve life other turns visits more resolves later inductionHypothesis =>
    obtain ⟨middle, first, middleFits, same⟩ := resolves.follows type sound standing fits
    rw [← resolve_resolving sound] at middleFits
    have middleCalm : middle ≠ .busy := fun busy => calm (same.mp busy)
    obtain ⟨after, second, afterCalm⟩ :=
      inductionHypothesis (step_sound sound (.resolve other)) middleCalm middleFits
    exact ⟨after, first.append second, afterCalm⟩
  | others later inductionHypothesis => exact inductionHypothesis sound calm fits

end Visits

end Life

/-- Between two disposals of a scope, whatever is resolved and however constructors fail,
retry and panic: a constructor is never under way twice at a time, and it comes to its end
at most once. Once a type has been resolved, everyone who asks for it gets the same
instance at once; once its constructor has failed, the next who asks starts it again. Every
resolution, also one that a constructor asks for, keeps all instances and adds the newest
only. -/
theorem one_instance_per_type (container : Container) (journal : Journal) (before : List Turn)
    {turns : List Turn} (undisposed : .dispose ∉ turns) :
    let life := (Life.opened container journal).run before
    (∃! visits, life.Visits turns visits) ∧
      (∀ visits, life.Visits turns visits → ∀ type,
        (∀ earlier later, visits = earlier ++ later →
          earlier.countP (Visit.leaves type) ≤ earlier.countP (Visit.enters type) ∧
            earlier.countP (Visit.enters type) ≤ earlier.countP (Visit.leaves type) + 1) ∧
        visits.countP (Visit.completes type) ≤ 1 ∧
        (∀ held, life.scope.holdings.find? type = some held →
          ∀ visit ∈ visits, visit.type = type → visit = .answered type (.resolved held)) ∧
        (∀ earlier visit later held, visits = earlier ++ visit :: later → visit.type = type →
          visit.answer? = some (.resolved held) →
            ∀ other ∈ later, other.type = type → other = .answered type (.resolved held)) ∧
        ∀ earlier failure middle visit later,
          visits = earlier ++ .left type (.failed failure) :: middle ++ visit :: later →
            (∀ other ∈ middle, other.type ≠ type) → visit.type = type →
              visit = .entered type) ∧
      (∀ stack type stock answer rest visits,
        Resolves container.services stack type stock answer rest visits →
          stock.holdings.Grows rest.holdings) ∧
      ∀ earlier type later, turns = earlier ++ .resolve type :: later →
        let now := life.run earlier
        let resolved := now.scope.resolve type now.journal
        now.scope.holdings.Grows resolved.2.1.holdings ∧
        (∀ held, now.scope.holdings.find? type = some held → resolved.1 = .resolved held) ∧
        (∀ visits, now.Visits [.resolve type] visits →
          ∃ others last, visits = others ++ [last] ∧ last.type = type ∧
            last.answer? = some resolved.1) ∧
        ∀ held middle rest, resolved.1 = .resolved held → later = middle ++ .resolve type :: rest →
          let afterwards := life.run (earlier ++ .resolve type :: middle)
          (afterwards.scope.resolve type afterwards.journal).1 = .resolved held := by
  intro life
  have opened : (Life.opened container journal).scope.Sound := ofContainer_sound container
  have sound : life.scope.Sound := Life.run_sound opened before
  refine ⟨?_, ?_, fun _ _ _ _ _ _ => Resolves.grows, ?_⟩
  · obtain ⟨visits, visited⟩ := Life.Visits.exists_of_sound sound undisposed
    exact ⟨visits, visited, fun other otherVisited => otherVisited.unique visited⟩
  · intro visits visited type
    obtain ⟨standing, fits, calm⟩ := Standing.exists_fits life.scope.services
      life.scope.resolving life.scope.holdings type
    obtain ⟨after, follows, -⟩ := visited.follows sound type calm fits
    have inactive := Standing.active_of_ne_busy calm
    refine ⟨?_, ?_, ?_, ?_, ?_⟩
    · rintro earlier later rfl
      obtain ⟨middle, first, -⟩ := follows.split
      have counts := first.active_eq
      have atMost := middle.active_le
      omega
    · have counts := follows.instances_eq
      have atMost := after.instances_le
      omega
    · intro held found
      obtain rfl := fits.eq_held sound found
      exact follows.of_held
    · rintro earlier visit later held rfl concerns gives
      obtain ⟨middle, -, rest⟩ := follows.split
      cases rest with
      | cons meets rest =>
        obtain rfl := meets.held_of_resolved concerns gives
        exact rest.of_held
    · rintro earlier failure middle visit later rfl others concerns
      rw [List.append_assoc] at follows
      obtain ⟨first, -, rest⟩ := follows.split
      cases rest with
      | cons meets rest =>
        obtain rfl := meets.idle_of_failed
        obtain ⟨next, aside, rest⟩ := rest.split
        obtain rfl := aside.of_aside others
        cases rest with
        | cons meets rest => exact meets.entered_of_idle concerns
  · rintro earlier type later rfl now resolved
    have nowSound : now.scope.Sound := Life.run_sound sound earlier
    refine ⟨Life.resolve_grows nowSound type, fun held => Life.resolved_of_find? nowSound, ?_, ?_⟩
    · intro visits visited
      cases visited with
      | resolve resolves later =>
        cases later
        rw [List.append_nil]
        exact resolves.visits_eq
    · rintro held middle rest gives rfl afterwards
      have calm : .dispose ∉ middle := fun isTurn => undisposed (by simp [isTurn])
      have same : afterwards = (now.step (.resolve type)).run middle := Life.run_append _ _ _
      have found := Life.run_keeps (Life.step_sound nowSound (.resolve type)) calm
        (Life.find?_of_resolved nowSound gives)
      rw [same]
      exact Life.resolved_of_find? (Life.run_sound (Life.step_sound nowSound _) middle) found

/-- A part that is obtained again after a panic of something else. -/
theorem one_instance_per_type_after_panic :
    let part : Service := ⟨⟨"Part", "P"⟩, [], .silent⟩
    let flaky : Service := ⟨⟨"Flaky", "F"⟩, [.get part.type, .fail "no luck" []], .silent⟩
    let whole : Service :=
      ⟨⟨"Whole", "W"⟩, [.tryGet flaky.type, .tryGet flaky.type, .panic "boom"], .silent⟩
    let life := Life.opened ⟨[part, flaky, whole]⟩ (.ofSerial 0)
    let afterwards := life.run [.dispose, .resolve part.type, .resolve whole.type]
    (afterwards.scope.resolve part.type afterwards.journal).1 =
      .resolved ⟨part.type, 0, []⟩ := by
  intro part flaky whole life afterwards
  have instances := one_instance_per_type ⟨[part, flaky, whole]⟩ (.ofSerial 0) [.dispose]
    (show .dispose ∉ [Turn.resolve part.type, .resolve whole.type, .resolve part.type] by decide)
  have later := (instances.2.2.2 [] part.type _ rfl).2.2.2
  exact later ⟨part.type, 0, []⟩ [.resolve whole.type] [] rfl rfl

end ContainerScope

end WorkHost
