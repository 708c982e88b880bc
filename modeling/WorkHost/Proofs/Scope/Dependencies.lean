import WorkHost.Proofs.Scope.Lifetimes

/-!
Contract: what the instances of a scope remember of each other.

A live instance obtained only live instances that were constructed before it, and these
are the ones that the scope gives for their types. Whatever obtained an instance is
disposed before it, in one disposal or in several (`dependents_end_first`).
-/

namespace WorkHost

namespace Story

variable {services : List Service} {next : Nat} {past : List Occurrence}
  {live : List Instance} {held : Instance}

/-- A live instance obtained older ones only. -/
theorem draws (story : Story services next past live) {newer older : List Instance}
    {held : Instance} (shape : live = newer ++ held :: older) : held.Draws older := by
  induction story generalizing newer with
  | opened next => simp at shape
  | elsewhere story later inductionHypothesis => exact inductionHypothesis shape
  | aside story unbuilt unended inductionHypothesis => exact inductionHypothesis shape
  | built story found serial draws inductionHypothesis =>
    cases newer with
    | nil =>
      cases shape
      exact draws
    | cons newest newer =>
      cases shape
      exact inductionHypothesis rfl
  | @ended next past live disposed story inductionHypothesis =>
    have earlier : disposed :: live = (disposed :: newer) ++ held :: older :=
      congrArg (disposed :: ·) shape
    exact inductionHypothesis earlier

theorem draws_live (story : Story services next past live) :
    ∀ held ∈ live, held.Draws live := by
  intro held isLive dependency isDependency
  obtain ⟨newer, older, shape⟩ := List.append_of_mem isLive
  obtain ⟨used, isOlder, same⟩ := story.draws shape dependency isDependency
  refine ⟨used, ?_, same⟩
  rw [shape]
  exact List.mem_append_right _ (List.mem_cons_of_mem _ isOlder)

/-- What an instance obtained was live when it was constructed. -/
theorem drawn_of_built (story : Story services next past live)
    {before after : List Occurrence} {service : Service} {held : Instance}
    (builds : past = before ++ .built service held :: after) {dependency : ServiceType × Nat}
    (isDependency : dependency ∈ held.dependencies) :
    ∃ used ∈ builtIn before, used ∉ endedIn before ∧ (used.type, used.serial) = dependency := by
  induction story generalizing after with
  | opened next => simp at builds
  | elsewhere story later inductionHypothesis => exact inductionHypothesis builds
  | aside story unbuilt unended inductionHypothesis =>
    rcases append_singleton_eq_append_cons_iff.mp builds with ⟨-, rfl, -⟩ | ⟨rest, earlier, -⟩
    · cases unbuilt
    · exact inductionHypothesis earlier
  | built story found serial draws inductionHypothesis =>
    rcases append_singleton_eq_append_cons_iff.mp builds with
      ⟨rfl, last, -⟩ | ⟨rest, earlier, -⟩
    · cases last
      obtain ⟨used, isLive, same⟩ := draws dependency isDependency
      obtain ⟨isBuilt, unended⟩ := (story.mem_live_iff used).mp isLive
      exact ⟨used, isBuilt, unended, same⟩
    · exact inductionHypothesis earlier
  | ended story inductionHypothesis =>
    rcases append_singleton_eq_append_cons_iff.mp builds with ⟨-, last, -⟩ | ⟨rest, earlier, -⟩
    · have builder := congrArg Occurrence.built? last
      rw [built?_ending] at builder
      cases builder
    · exact inductionHypothesis earlier

/-- No live instance obtained one that has been disposed. -/
theorem not_obtained_of_ended (story : Story services next past live) {held used : Instance}
    (isLive : held ∈ live) (isEnded : used ∈ endedIn past) : ¬ held.Obtained used := by
  intro obtained
  obtain ⟨other, otherLive, same⟩ := story.draws_live held isLive _ obtained
  have one : other = used := story.eq_of_serial_eq (story.live_subset otherLive)
    (story.ended_subset isEnded) (congrArg Prod.snd same)
  exact ((story.mem_live_iff other).mp otherLive).2 (one ▸ isEnded)

theorem not_obtained_self (story : Story services next past (held :: live)) :
    ¬ held.Obtained held := by
  intro obtained
  obtain ⟨other, isOlder, same⟩ := story.draws (List.nil_append _).symm _ obtained
  have lower := (List.pairwise_cons.mp story.live_decreasing).1 other isOlder
  exact Nat.ne_of_lt lower (congrArg Prod.snd same)

/-- Whatever obtained an instance is disposed before it. -/
theorem ended_of_obtained (story : Story services next past live)
    {before after : List Occurrence} {occurrence : Occurrence} {used held : Instance}
    (ends : past = before ++ occurrence :: after) (isEnd : occurrence.ended? = some used)
    (isBuilt : held ∈ builtIn past) (obtained : held.Obtained used) : held ∈ endedIn before := by
  induction story generalizing after with
  | opened next => simp at ends
  | elsewhere story later inductionHypothesis => exact inductionHypothesis ends isBuilt
  | aside story unbuilt unended inductionHypothesis =>
    rcases append_singleton_eq_append_cons_iff.mp ends with ⟨-, rfl, -⟩ | ⟨rest, earlier, -⟩
    · rw [unended] at isEnd
      cases isEnd
    · exact inductionHypothesis earlier (by simpa [unbuilt] using isBuilt)
  | @built next past live service newest story found serial draws inductionHypothesis =>
    rcases append_singleton_eq_append_cons_iff.mp ends with ⟨-, rfl, -⟩ | ⟨rest, earlier, -⟩
    · cases isEnd
    · have isEnded : used ∈ endedIn (past ++ [.built service newest]) := by
        simp [earlier, endedIn, isEnd]
      have grown : Story services (next + 1) (past ++ [.built service newest]) (newest :: live) :=
        story.built found serial draws
      have builtOrNewest : held ∈ builtIn past ∨ held = newest := by simpa using isBuilt
      rcases builtOrNewest with known | rfl
      · exact inductionHypothesis earlier known
      · exact absurd obtained (grown.not_obtained_of_ended List.mem_cons_self isEnded)
  | @ended next past live disposed story inductionHypothesis =>
    have known : held ∈ builtIn past := by simpa using isBuilt
    rcases append_singleton_eq_append_cons_iff.mp ends with ⟨rfl, rfl, -⟩ | ⟨rest, earlier, -⟩
    · rw [ended?_ending] at isEnd
      obtain rfl : disposed = used := Option.some.inj isEnd
      by_contra unended
      have isEnded : disposed ∈ endedIn (past ++ [.ending services disposed.type disposed]) := by
        simp
      rcases List.mem_cons.mp ((story.mem_live_iff held).mpr ⟨known, unended⟩) with rfl | isOlder
      · exact story.not_obtained_self obtained
      · exact story.ended.not_obtained_of_ended isOlder isEnded obtained
    · exact inductionHypothesis earlier known

end Story

/-- A scope gives the live instance of a type. -/
theorem ContainerScope.resolve_of_live {scope : ContainerScope} (sound : scope.Sound)
    {held : Instance} (isLive : held ∈ scope.holdings.live) (journal : Journal) :
    scope.resolve held.type journal = (.resolved held, scope, journal) := by
  have found : scope.holdings.find? held.type = some held := sound.find?_of_live isLive
  have answer : ∀ room, resolveWithin scope.services room scope.resolving held.type
      ⟨scope.holdings, journal⟩ = (.resolved held, ⟨scope.holdings, journal⟩) := by
    intro room
    cases room <;> simp only [resolveWithin, resolveBy, found]
  simp only [ContainerScope.resolve, ContainerScope.resolveAny, answer]
  simp [Resolution.ofType, Resolution.underConstruction]

namespace ContainerScope

/-- In every life of a scope a live instance remembers only live instances that were
constructed before it, which the scope gives for their types; so two that obtained the same
type share one instance. What was disposed, in the last disposal or before, had been
obtained only by instances that were disposed earlier, and no instance that is left
remembers it. -/
theorem dependents_end_first (container : Container) (journal : Journal) (turns : List Turn) :
    let life := (Life.opened container journal).run turns
    let past := (Life.opened container journal).annals turns
    let live := life.scope.holdings.live
    let during := life.occurrences .dispose
    let left := (life.scope.dispose life.journal).2.1.holdings.live
    (∀ newer held older, live = newer ++ held :: older → ∀ dependency ∈ held.dependencies,
      ∃ used ∈ older, (used.type, used.serial) = dependency ∧
        ∀ journal, life.scope.resolve used.type journal = (.resolved used, life.scope, journal)) ∧
      (∀ held ∈ live, ∀ other ∈ live, ∀ type serial serial',
        (type, serial) ∈ held.dependencies → (type, serial') ∈ other.dependencies →
          serial = serial') ∧
      (∀ before after service held, past = before ++ .built service held :: after →
        ∀ dependency ∈ held.dependencies, ∃ used ∈ builtIn before,
          used ∉ endedIn before ∧ (used.type, used.serial) = dependency) ∧
      (∀ before after occurrence used, past ++ during = before ++ occurrence :: after →
        occurrence.ended? = some used →
          ∀ held ∈ builtIn past, held.Obtained used → held ∈ endedIn before) ∧
      ∀ held ∈ left, held.Draws left ∧
        ∀ used ∈ endedIn (past ++ during), ¬ held.Obtained used := by
  intro life past live during left
  have told : life.Told past := Life.annals_told container journal turns
  have later : (life.step .dispose).Told (past ++ during) := Life.step_told told .dispose
  have drawsLive : ∀ held ∈ live, held.Draws live := told.story.draws_live
  refine ⟨?_, ?_, ?_, ?_, ?_⟩
  · intro newer held older shape dependency isDependency
    obtain ⟨used, isOlder, same⟩ := told.story.draws shape dependency isDependency
    have usedLive : used ∈ live := by
      rw [shape]
      exact List.mem_append_right _ (List.mem_cons_of_mem _ isOlder)
    exact ⟨used, isOlder, same, resolve_of_live told.sound usedLive⟩
  · intro held isLive other otherLive type serial serial' obtained otherObtained
    obtain ⟨used, usedLive, same⟩ := drawsLive held isLive _ obtained
    obtain ⟨used', usedLive', same'⟩ := drawsLive other otherLive _ otherObtained
    have types : used.type = used'.type :=
      (congrArg Prod.fst same).trans (congrArg Prod.fst same').symm
    have one : used = used' := told.sound.eq_of_type_eq usedLive usedLive' types
    exact (congrArg Prod.snd same).symm.trans (one ▸ congrArg Prod.snd same')
  · intro before after service held builds dependency isDependency
    exact told.story.drawn_of_built builds isDependency
  · intro before after occurrence used ends isEnd held isBuilt obtained
    refine later.story.ended_of_obtained ends isEnd ?_ obtained
    rw [builtIn_append]
    exact List.mem_append_left _ isBuilt
  · intro held isLeft
    refine ⟨later.story.draws_live held isLeft, ?_⟩
    intro used isEnded
    exact later.story.not_obtained_of_ended isLeft isEnded

end ContainerScope

end WorkHost
