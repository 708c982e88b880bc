import WorkHost.Proofs.Scope.Recounting

/-!
Contract: the life of a container's scope.

The owner of a scope resolves types and disposes the scope in any order, while other scopes
take serials and others write into the journal. A disposal ends the live instances from the
newest on, and no instance of a scope is disposed twice in its life
(`disposal_reverses_construction`). A guard lets a scope live up to its first disposal.
-/

namespace WorkHost

namespace ContainerScope

/-- What can happen to a scope or beside it. -/
inductive Turn where
  | resolve (type : ServiceType)
  | dispose
  /-- Other scopes take serials, and others write. -/
  | others (serials : Nat) (lines : List String) (reports : List Report)
deriving DecidableEq, Repr

/-- What others do to the journal during a turn. -/
def Turn.pass : Turn → Journal → Journal
  | .others serials lines reports, journal =>
    ⟨journal.nextSerial + serials, journal.lines ++ lines, journal.reports ++ reports⟩
  | _, journal => journal

structure Life where
  scope : ContainerScope
  journal : Journal
deriving DecidableEq, Repr

namespace Life

def opened (container : Container) (journal : Journal) : Life := ⟨.ofContainer container, journal⟩

def step (life : Life) (turn : Turn) : Life :=
  match turn with
  | .resolve type =>
    let (_, scope, journal) := life.scope.resolve type life.journal
    ⟨scope, journal⟩
  | .dispose =>
    let (_, scope, journal) := life.scope.dispose life.journal
    ⟨scope, journal⟩
  | .others .. => { life with journal := turn.pass life.journal }

def run (life : Life) (turns : List Turn) : Life := turns.foldl step life

/-- What happens in the scope during a turn. -/
def occurrences (life : Life) : Turn → List Occurrence
  | .resolve type =>
    (recordWithin life.scope.services life.scope.services.length life.scope.resolving type
      ⟨life.scope.holdings, life.journal⟩).2.2
  | .dispose =>
    (recordDisposal life.scope.services life.scope.holdings.created
      life.scope.holdings.instances life.journal).2.2.2
  | .others .. => []

def annals (life : Life) : List Turn → List Occurrence
  | [] => []
  | turn :: rest => life.occurrences turn ++ (life.step turn).annals rest

theorem run_append (life : Life) (turns more : List Turn) :
    life.run (turns ++ more) = (life.run turns).run more := List.foldl_append

/-! ## What a turn does -/

theorem step_services (life : Life) (turn : Turn) :
    (life.step turn).scope.services = life.scope.services := by
  cases turn <;> rfl

theorem step_sound {life : Life} (sound : life.scope.Sound) (turn : Turn) :
    (life.step turn).scope.Sound := by
  cases turn with
  | resolve type => exact serve_sound sound (.resolve type life.journal)
  | dispose => exact serve_sound sound (.dispose life.journal)
  | others serials lines reports => exact sound

theorem resolve_recounts (life : Life) (type : ServiceType) :
    Stock.Recounts life.scope.services ⟨life.scope.holdings, life.journal⟩
      (life.occurrences (.resolve type))
      ⟨(life.step (.resolve type)).scope.holdings, (life.step (.resolve type)).journal⟩ := by
  have recounts := (recordWithin_recounts life.scope.services life.scope.services.length
    life.scope.resolving type ⟨life.scope.holdings, life.journal⟩).recounts
  have erased := erase_recordWithin life.scope.services life.scope.services.length
    life.scope.resolving type ⟨life.scope.holdings, life.journal⟩
  have stocks := congrArg Prod.snd erased
  show Stock.Recounts _ _ _ ⟨(resolveWithin _ _ _ type _).2.holdings,
    (resolveWithin _ _ _ type _).2.journal⟩
  rw [← stocks]
  exact recounts

theorem dispose_journal (life : Life) :
    let disposal := life.scope.dispose life.journal
    disposal.2.2.nextSerial = life.journal.nextSerial ∧
      disposal.2.2.lines =
        life.journal.lines ++ (life.occurrences .dispose).flatMap Occurrence.lines := by
  have writes := recordDisposal_journal life.scope.services life.scope.holdings.created
    life.scope.holdings.instances life.journal
  have erased := erase_recordDisposal life.scope.services life.scope.holdings.created
    life.scope.holdings.instances life.journal
  simp only [ContainerScope.dispose, ← erased]
  constructor
  · split <;> simp only [Journal.report, writes]
  · split <;> simp only [Journal.report, writes] <;> rfl

theorem dispose_disposes {life : Life} (sound : life.scope.Sound) :
    let disposal := life.scope.dispose life.journal
    Disposes life.scope.services life.scope.holdings.live disposal.1
      (life.occurrences .dispose) disposal.2.1.holdings.live := by
  have disposes := recordDisposal_disposes life.scope.services sound life.journal
  have erased := erase_recordDisposal life.scope.services life.scope.holdings.created
    life.scope.holdings.instances life.journal
  simp only [ContainerScope.dispose, ← erased]
  exact disposes

/-- The scope is as `past` tells. -/
structure Told (life : Life) (past : List Occurrence) : Prop where
  sound : life.scope.Sound
  story : Story life.scope.services life.journal.nextSerial past life.scope.holdings.live

theorem opened_told (container : Container) (journal : Journal) :
    (opened container journal).Told [] :=
  ⟨ofContainer_sound container, .opened journal.nextSerial⟩

theorem step_told {life : Life} {past : List Occurrence} (told : life.Told past) (turn : Turn) :
    (life.step turn).Told (past ++ life.occurrences turn) := by
  refine ⟨step_sound told.sound turn, ?_⟩
  cases turn with
  | resolve type => exact (life.resolve_recounts type).story told.story
  | dispose =>
    have later := (dispose_disposes told.sound).story told.story
    rw [← life.dispose_journal.1] at later
    exact later
  | others serials lines reports =>
    rw [occurrences, List.append_nil]
    exact told.story.elsewhere (Nat.le_add_right _ _)

theorem run_told {life : Life} {past : List Occurrence} (told : life.Told past)
    (turns : List Turn) : (life.run turns).Told (past ++ life.annals turns) := by
  induction turns generalizing life past with
  | nil => simpa [annals, run] using told
  | cons turn turns inductionHypothesis =>
    have later := inductionHypothesis (step_told told turn)
    rwa [List.append_assoc] at later

theorem annals_told (container : Container) (journal : Journal) (turns : List Turn) :
    ((opened container journal).run turns).Told ((opened container journal).annals turns) :=
  run_told (opened_told container journal) turns

theorem run_services (life : Life) (turns : List Turn) :
    (life.run turns).scope.services = life.scope.services := by
  induction turns generalizing life with
  | nil => rfl
  | cons turn turns inductionHypothesis =>
    exact (inductionHypothesis (life.step turn)).trans (life.step_services turn)

/-- What happens accounts for all that a turn does to the journal, apart from others. -/
theorem step_journal {life : Life} (sound : life.scope.Sound) (turn : Turn) :
    (life.step turn).journal.lines = (turn.pass life.journal).lines ++
        (life.occurrences turn).flatMap Occurrence.lines ∧
      (life.step turn).journal.nextSerial = (turn.pass life.journal).nextSerial +
        (builtIn (life.occurrences turn)).length := by
  cases turn with
  | resolve type => exact ⟨(life.resolve_recounts type).lines, (life.resolve_recounts type).serials⟩
  | dispose =>
    obtain ⟨serials, lines⟩ := life.dispose_journal
    refine ⟨lines, serials.trans ?_⟩
    rw [(dispose_disposes sound).builtIn_eq_nil]
    rfl
  | others serials lines reports => simp [step, occurrences, builtIn]

end Life

/-! ## Guards -/

/-- A scope in the hands of a guard. -/
structure Guarded where
  guard : ScopeGuard ContainerScope
  journal : Journal

namespace Guarded

def opened (container : Container) (journal : Journal) : Guarded :=
  ⟨.ofScope (.ofContainer container), journal⟩

/-- To close a guard or to drop it is to dispose its scope once. -/
def step (guarded : Guarded) (turn : Turn) : Guarded :=
  match turn with
  | .resolve type =>
    let (_, guard, journal) := guarded.guard.resolve type guarded.journal
    ⟨guard, journal⟩
  | .dispose =>
    let (_, guard, journal) := guarded.guard.disposeOnce guarded.journal
    ⟨guard, journal⟩
  | .others .. => { guarded with journal := turn.pass guarded.journal }

def run (guarded : Guarded) (turns : List Turn) : Guarded := turns.foldl step guarded

def ofLife (life : Life) : Guarded := ⟨.ofScope life.scope, life.journal⟩

theorem ofLife_step (life : Life) {turn : Turn} (alive : turn ≠ .dispose) :
    (ofLife life).step turn = ofLife (life.step turn) := by
  cases turn with
  | resolve type => rfl
  | dispose => exact absurd rfl alive
  | others serials lines reports => rfl

theorem ofLife_run (life : Life) {turns : List Turn} (alive : .dispose ∉ turns) :
    (ofLife life).run turns = ofLife (life.run turns) := by
  induction turns generalizing life with
  | nil => rfl
  | cons turn turns inductionHypothesis =>
    obtain ⟨first, rest⟩ := List.ne_and_not_mem_of_not_mem_cons alive
    rw [run, List.foldl_cons, ofLife_step life first.symm]
    exact inductionHypothesis (life.step turn) rest

theorem run_append (guarded : Guarded) (turns more : List Turn) :
    guarded.run (turns ++ more) = (guarded.run turns).run more := List.foldl_append

theorem emptied_step (journal : Journal) (turn : Turn) :
    step ⟨⟨none⟩, journal⟩ turn = ⟨⟨none⟩, turn.pass journal⟩ := by
  cases turn <;> rfl

theorem emptied_run (journal : Journal) (turns : List Turn) :
    run ⟨⟨none⟩, journal⟩ turns =
      ⟨⟨none⟩, turns.foldl (fun journal turn => turn.pass journal) journal⟩ := by
  induction turns generalizing journal with
  | nil => rfl
  | cons turn turns inductionHypothesis =>
    rw [run, List.foldl_cons, emptied_step]
    exact inductionHypothesis (turn.pass journal)

/-- After the first disposal a guard does nothing any more. -/
theorem run_dispose (container : Container) (journal : Journal) {before : List Turn}
    (alive : .dispose ∉ before) (after : List Turn) :
    (opened container journal).run (before ++ .dispose :: after) =
      ⟨⟨none⟩, after.foldl (fun journal turn => turn.pass journal)
        ((Life.opened container journal).run (before ++ [.dispose])).journal⟩ := by
  have living : (opened container journal).run before =
      ofLife ((Life.opened container journal).run before) :=
    ofLife_run (Life.opened container journal) alive
  rw [run_append, living, Life.run_append]
  exact emptied_run _ after

end Guarded

end ContainerScope

/-- What a scope holds that has these live instances, each for its own type. -/
def Holdings.ofLive (live : List Instance) : Holdings :=
  ⟨live.map fun held => (held.type, held), live.map Instance.type⟩

namespace Holdings.Sound

variable {holdings : Holdings} {stack : List ServiceType}

theorem entries_live (sound : holdings.Sound stack) :
    holdings.live.map (fun held => (held.type, held)) = holdings.instances := by
  rw [Holdings.live, List.map_map]
  refine (List.map_congr_left ?_).trans (List.map_id _)
  intro entry isEntry
  exact Prod.ext (sound.typed entry isEntry) rfl

theorem types_live (sound : holdings.Sound stack) :
    holdings.live.map Instance.type = holdings.created := by
  rw [← sound.keys, ← sound.entries_live, List.map_map]
  rfl

theorem eq_ofLive (sound : holdings.Sound stack) : holdings = .ofLive holdings.live := by
  rw [Holdings.ofLive, sound.entries_live, sound.types_live]

/-- At most one instance of a type is live. -/
theorem eq_of_type_eq (sound : holdings.Sound stack) {held other : Instance}
    (isLive : held ∈ holdings.live) (otherLive : other ∈ holdings.live)
    (same : held.type = other.type) : held = other := by
  have nodup := sound.created_nodup
  rw [← sound.types_live] at nodup
  exact List.inj_on_of_nodup_map nodup isLive otherLive same

theorem find?_of_live (sound : holdings.Sound stack) {held : Instance}
    (isLive : held ∈ holdings.live) : holdings.find? held.type = some held := by
  cases found : holdings.find? held.type with
  | none =>
    rw [find?_eq_none_iff, sound.keys, ← sound.types_live] at found
    exact absurd (List.mem_map_of_mem isLive) found
  | some other =>
    have typed := sound.type_of_find? found
    rw [sound.eq_of_type_eq (mem_live_of_find? found) isLive typed]

end Holdings.Sound

namespace ContainerScope

/-- In every life of a scope the live instances are those that were constructed and not
disposed, the newest first. A disposal ends them in this order, each by the hook that was
registered with the constructor that made it; it ends them all if no hook panics, and else
those up to the first whose hook panics, so that a later disposal goes on with the older
ones. No instance is disposed twice. A guard does nothing after its first disposal. The
journal shows what happened and nothing else, and a serial is gone for each instance. -/
theorem disposal_reverses_construction (container : Container) (journal : Journal)
    (turns : List Turn) :
    let services := container.services
    let life := (Life.opened container journal).run turns
    let past := (Life.opened container journal).annals turns
    let live := life.scope.holdings.live
    let disposal := life.scope.dispose life.journal
    let during := life.occurrences .dispose
    live = ((builtIn past).filter fun held => held ∉ endedIn past).reverse ∧
      ((builtIn past).map Instance.serial).Pairwise (· < ·) ∧
      ((∀ held ∈ live, ¬ HookPanics services held) →
        disposal.1 = none ∧ during = live.map (ending services) ∧
          disposal.2.1.holdings = .empty) ∧
      (∀ newer held older, live = newer ++ held :: older →
        (∀ other ∈ newer, ¬ HookPanics services other) → HookPanics services held →
          disposal.1 = some (hookPanic held) ∧
            during = (newer ++ [held]).map (ending services) ∧
            disposal.2.1.holdings = .ofLive older) ∧
      (∀ before after service held, past = before ++ .hooked service held :: after →
        .built service held ∈ before) ∧
      (endedIn past).Nodup ∧
      (∀ before after, turns = before ++ .dispose :: after → .dispose ∉ before →
        (Guarded.opened container journal).run turns =
          ⟨⟨none⟩, after.foldl (fun journal turn => turn.pass journal)
            ((Life.opened container journal).run (before ++ [.dispose])).journal⟩) ∧
      ∀ turn, (life.step turn).journal.lines = (turn.pass life.journal).lines ++
          (life.occurrences turn).flatMap Occurrence.lines ∧
        (life.step turn).journal.nextSerial = (turn.pass life.journal).nextSerial +
          (builtIn (life.occurrences turn)).length := by
  intro services life past live disposal during
  have told : life.Told past := Life.annals_told container journal turns
  have registered : life.scope.services = services := Life.run_services _ turns
  have disposes : Disposes services live disposal.1 during disposal.2.1.holdings.live := by
    rw [← registered]
    exact Life.dispose_disposes told.sound
  have left : disposal.2.1.holdings = .ofLive disposal.2.1.holdings.live :=
    Holdings.Sound.eq_ofLive (Life.step_sound told.sound .dispose)
  refine ⟨told.story.live_eq, List.pairwise_map.mpr told.story.increasing, ?_, ?_,
    fun before after service held hooks => told.story.built_of_hooked hooks,
    told.story.endedIn_nodup, ?_, Life.step_journal told.sound⟩
  · intro calm
    obtain ⟨finished, all, nothing⟩ := disposes.of_calm calm
    rw [nothing] at left
    exact ⟨finished, all, left⟩
  · intro newer held older first calm panics
    obtain ⟨interrupted, hooks, untouched⟩ := disposes.of_panics first calm panics
    rw [untouched] at left
    exact ⟨interrupted, hooks, left⟩
  · rintro before after rfl alive
    exact Guarded.run_dispose container journal alive after

end ContainerScope

end WorkHost
