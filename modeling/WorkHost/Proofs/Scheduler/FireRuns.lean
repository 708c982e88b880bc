import WorkHost.Proofs.Scheduler.Rounds

/-!
Contract: every run of a scheduler fires what its jobs' schedules say.

`Sound` is what every step keeps: the fires so far are a history of the jobs, and the pending
times are those the history leaves. `Faithful` is read off it. Two runs whose views differ
only in how enqueueing came out go through the same steps (`run_alike`), and a scheduler that
has looked at its cancelled token fires nothing more.
-/

namespace WorkHost

open Calendar

namespace Vigil

/-! ## What every step keeps -/

/-- What holds in each phase of a round. -/
def Standing (vigil : Vigil) : Prop :=
  match vigil.scheduler.phase with
  | .starting => False
  | .choosing => vigil.current = none
  | .sleeping place due _ | .firing place due =>
    vigil.current = none ∧ vigil.scheduler.agenda.IsDue place due
  | .enqueueing place due =>
    vigil.current = some ⟨vigil.scheduler.agenda, place, due, none⟩ ∧
      vigil.scheduler.agenda.IsDue place due
  | .ended =>
    vigil.current = none ∧
      (vigil.heeded = true ∨ ∀ place time, ¬ vigil.scheduler.agenda.PendingAt place time)

/-- A scheduler that has not begun. -/
structure Fresh (jobs : List Cron.Job) (vigil : Vigil) : Prop where
  phase : vigil.scheduler.phase = .starting
  jobs_eq : vigil.scheduler.jobs = jobs
  agenda : vigil.scheduler.agenda = []
  past : vigil.past = []
  current : vigil.current = none
  heeded : vigil.heeded = false

/-- A scheduler that has begun. -/
structure Begun (jobs : List Cron.Job) (vigil : Vigil) (start : Instant) : Prop where
  isStart : vigil.start = some start
  history : History jobs start vigil.past
  ended : ∀ fire ∈ vigil.past, fire.ending.isSome = true
  agenda : vigil.scheduler.agenda = .expected jobs start vigil.past
  standing : vigil.Standing
  heeded : vigil.heeded = true → vigil.scheduler.phase = .ended

def Sound (jobs : List Cron.Job) (vigil : Vigil) : Prop :=
  vigil.Fresh jobs ∨ ∃ start, vigil.Begun jobs start

variable {jobs : List Cron.Job} {vigil : Vigil} {view : SchedulerView} {start : Instant}

theorem create_sound (jobs : List Cron.Job) : (create jobs).Sound jobs :=
  .inl ⟨rfl, rfl, rfl, rfl, rfl, rfl⟩

/-- Nothing else in the record changes while a round goes on. -/
theorem Begun.move (begun : vigil.Begun jobs start) {next : Vigil} (isStart : next.start = vigil.start)
    (past : next.past = vigil.past) (agenda : next.scheduler.agenda = vigil.scheduler.agenda)
    (standing : next.Standing) (heeded : next.heeded = true → next.scheduler.phase = .ended) :
    next.Begun jobs start where
  isStart := isStart.trans begun.isStart
  history := past ▸ begun.history
  ended := past ▸ begun.ended
  agenda := by rw [agenda, past, begun.agenda]
  standing := standing
  heeded := heeded

theorem Fresh.follow (fresh : vigil.Fresh jobs) {stride : SchedulerStride}
    (turn : Scheduler.Turn view vigil.scheduler stride) : (vigil.follow view stride).Sound jobs := by
  obtain ⟨phase, jobs_eq, agenda, past, current, heeded⟩ := fresh
  have calm : vigil.scheduler.heeds view = false := by
    rw [Scheduler.heeds, phase, Bool.and_false]
  cases turn with
  | decline _ empty =>
    refine .inr ⟨view.clock, ?_, ?_, ?_, ?_, ?_, ?_⟩ <;>
      simp only [Vigil.follow, phase, past, current, heeded, calm]
    · exact .nil
    · exact List.forall_mem_nil _
    · rw [agenda, ← jobs_eq, empty]
      rfl
    · refine ⟨rfl, .inr ?_⟩
      rintro place time ⟨pending, found, -⟩
      rw [agenda] at found
      cases found
    · exact fun _ => trivial
  | begin _ =>
    refine .inr ⟨view.clock, ?_, ?_, ?_, ?_, ?_, ?_⟩ <;>
      simp only [Vigil.follow, phase, past, current, heeded, calm]
    · exact .nil
    · exact List.forall_mem_nil _
    · rw [Agenda.expected_nil, jobs_eq]
    · rw [Standing]
    · exact fun isHeeded => absurd isHeeded Bool.false_ne_true
  | exhaust other => cases phase.symm.trans other
  | choose other => cases phase.symm.trans other
  | heed other => cases phase.symm.trans other
  | wake other => cases phase.symm.trans other
  | fire other => cases phase.symm.trans other
  | conclude other => cases phase.symm.trans other

theorem Begun.follow (begun : vigil.Begun jobs start) {stride : SchedulerStride}
    (turn : Scheduler.Turn view vigil.scheduler stride) :
    (vigil.follow view stride).Begun jobs start := by
  have standing := begun.standing
  -- A cancelled token is looked at only asleep, and after that the scheduler has ended.
  have awake : vigil.scheduler.phase ≠ .ended → vigil.heeded = false := fun running =>
    Bool.eq_false_iff.mpr fun isHeeded => running (begun.heeded isHeeded)
  cases turn with
  | decline phase =>
    rw [Standing, phase] at standing
    exact standing.elim
  | begin phase =>
    rw [Standing, phase] at standing
    exact standing.elim
  | exhaust phase idle =>
    rw [Standing, phase] at standing
    refine begun.move ?_ ?_ rfl ?_ fun _ => rfl
    · simp only [Vigil.follow, phase]
    · simp only [Vigil.follow, phase]
    · simp only [Standing, Vigil.follow, phase]
      exact ⟨standing, .inr idle⟩
  | choose phase isDue =>
    rw [Standing, phase] at standing
    refine begun.move ?_ ?_ rfl ?_ ?_ <;> simp only [Standing, Vigil.follow, phase]
    · exact ⟨standing, isDue⟩
    · simp [Scheduler.heeds, phase, awake]
  | heed phase cancelled =>
    rw [Standing, phase] at standing
    refine begun.move ?_ ?_ rfl ?_ fun _ => rfl
    · simp only [Vigil.follow, phase]
    · simp only [Vigil.follow, phase]
    · simp only [Standing, Vigil.follow, phase, Scheduler.heeds, cancelled]
      exact ⟨standing.1, .inl (Bool.or_true _)⟩
  | wake phase calm =>
    rw [Standing, phase] at standing
    refine begun.move ?_ ?_ rfl ?_ ?_ <;> simp only [Standing, Vigil.follow, phase]
    · exact standing
    · simp [Scheduler.heeds, calm, phase, awake]
  | fire phase =>
    rw [Standing, phase] at standing
    refine begun.move ?_ ?_ rfl ?_ ?_ <;> simp only [Standing, Vigil.follow, phase]
    · exact ⟨trivial, standing.2⟩
    · simp [Scheduler.heeds, phase, awake]
  | @conclude place due result phase enqueued =>
    rw [Standing, phase] at standing
    obtain ⟨current, isDue⟩ := standing
    have past : (vigil.follow view
        ⟨{ vigil.scheduler with
            agenda := vigil.scheduler.agenda.reschedule place due view.clock, phase := .choosing },
          Scheduler.resultReports (vigil.scheduler.jobName place) result, none⟩).past =
        vigil.past ++ [⟨vigil.scheduler.agenda, place, due, some (result, view.clock)⟩] := by
      simp [Vigil.follow, phase, current, Fire.conclude, enqueued]
    refine ⟨?_, ?_, ?_, ?_, ?_, ?_⟩
    · simp only [Vigil.follow, phase]
      exact begun.isStart
    · rw [past]
      exact begun.history.snoc begun.ended begun.agenda isDue
    · rw [past]
      exact List.forall_mem_append.mpr ⟨begun.ended, List.forall_mem_singleton.mpr rfl⟩
    · rw [past, ← Agenda.expected_append vigil.past rfl, ← begun.agenda]
      rfl
    · simp only [Standing, Vigil.follow, phase]
    · simp [Vigil.follow, Scheduler.heeds, phase, awake]

theorem step_sound (jobs : List Cron.Job) (vigil : Vigil) (view : SchedulerView)
    (sound : vigil.Sound jobs) : (vigil.step view).Sound jobs := by
  rcases step_cases vigil view with same | ⟨stride, turn, follows⟩
  · rwa [same]
  · rw [follows]
    rcases sound with fresh | ⟨start, begun⟩
    · exact fresh.follow turn
    · exact .inr ⟨start, begun.follow turn⟩

theorem run_sound (jobs : List Cron.Job) (views : List SchedulerView) :
    ((create jobs).run views).Sound jobs :=
  run_keeps (step_sound jobs) (create_sound jobs) views

/-- The fire whose work is being enqueued belongs to the history too. -/
theorem Begun.fires_history (begun : vigil.Begun jobs start) :
    History jobs start vigil.fires := by
  have standing := begun.standing
  cases isCurrent : vigil.current with
  | none =>
    rw [fires, isCurrent, Option.toList_none, List.append_nil]
    exact begun.history
  | some fire =>
    cases phase : vigil.scheduler.phase with
    | enqueueing place due =>
      rw [Standing, phase] at standing
      obtain ⟨current, isDue⟩ := standing
      rw [fires, current]
      exact begun.history.snoc begun.ended begun.agenda isDue
    | _ => simp_all [Standing]

/-- A scheduler that has not begun has fired nothing. -/
theorem Sound.fires_history (sound : vigil.Sound jobs) :
    vigil.fires = [] ∨ ∃ start, vigil.start = some start ∧ History jobs start vigil.fires := by
  rcases sound with fresh | ⟨start, begun⟩
  · rw [fires, fresh.past, fresh.current]
    exact .inl rfl
  · exact .inr ⟨start, begun.isStart, begun.fires_history⟩

end Vigil

/-! ## Runs that differ in how enqueueing came out -/

/-- Two views of the same moment. Enqueueing may have come out differently, but has come to an
end in both or in neither. -/
structure SchedulerView.Alike (view view' : SchedulerView) : Prop where
  now : view'.now = view.now
  clock : view'.clock = view.clock
  cancelled : view'.cancelled = view.cancelled
  enqueued : view'.enqueued.isSome = view.enqueued.isSome

/-- The same fires at the same times and the same times still to come. -/
structure Vigil.Alike (vigil vigil' : Vigil) : Prop where
  scheduler : vigil'.scheduler = vigil.scheduler
  start : vigil'.start = vigil.start
  past : vigil'.past.map Fire.timing = vigil.past.map Fire.timing
  current : vigil'.current = vigil.current
  heeded : vigil'.heeded = vigil.heeded

namespace Vigil

theorem run_ended {vigil : Vigil} (ended : vigil.scheduler.phase = .ended)
    (views : List SchedulerView) : vigil.run views = vigil := by
  induction views with
  | nil => rfl
  | cons view rest inductionHypothesis =>
    have stays : vigil.step view = vigil := by
      rw [step, Scheduler.step, ended]
      rfl
    rw [run, List.foldl_cons, stays]
    exact inductionHypothesis

/-- While the token is cancelled no round gets past its sleep. -/
theorem step_cancelled {vigil : Vigil} {view : SchedulerView} (cancelled : view.cancelled = true)
    (asleep : ∀ place due, vigil.scheduler.phase ≠ .firing place due) :
    (vigil.step view).fires.length ≤ vigil.fires.length ∧
      ∀ place due, (vigil.step view).scheduler.phase ≠ .firing place due := by
  rcases step_cases vigil view with same | ⟨stride, turn, follows⟩
  · rw [same]
    exact ⟨Nat.le_refl _, asleep⟩
  · rw [follows]
    cases turn with
    | wake _ calm => exact absurd cancelled (calm ▸ Bool.false_ne_true)
    | fire phase => exact absurd phase (asleep _ _)
    | conclude phase _ =>
      refine ⟨?_, fun _ _ => by simp [follow]⟩
      simp only [fires, follow, phase, Option.toList_none, List.append_nil, List.length_append]
      cases vigil.current <;> simp
    | _ => simp_all [fires, follow]

theorem run_cancelled {vigil : Vigil} {views : List SchedulerView}
    (cancelled : ∀ view ∈ views, view.cancelled = true)
    (asleep : ∀ place due, vigil.scheduler.phase ≠ .firing place due) :
    (vigil.run views).fires.length ≤ vigil.fires.length := by
  induction views generalizing vigil with
  | nil => exact Nat.le_refl _
  | cons view rest inductionHypothesis =>
    obtain ⟨now, later⟩ := List.forall_mem_cons.mp cancelled
    obtain ⟨noMore, stillAsleep⟩ := step_cancelled now asleep
    exact (inductionHypothesis later stillAsleep).trans noMore

/-! ## One round -/

/-- A round goes through if the scheduler is not stopped, sleeps until the time is there and
enqueueing comes to an end. -/
theorem run_round {vigil : Vigil} {place : Nat} {due : Instant}
    (phase : vigil.scheduler.phase = .choosing) (idle : vigil.current = none)
    (isDue : vigil.scheduler.agenda.IsDue place due)
    {choosing sleeping firing enqueueing : SchedulerView} {result : Except Failure WorkId}
    (slept : choosing.now + Scheduler.millisecondsUntil choosing.clock due ≤ sleeping.now)
    (calm : sleeping.cancelled = false) (enqueued : enqueueing.enqueued = some result) :
    (vigil.run [choosing, sleeping, firing, enqueueing]).fires =
      vigil.fires ++
        [⟨vigil.scheduler.agenda, place, due, some (result, enqueueing.clock)⟩] := by
  have found := (Agenda.due?_eq_some_iff _ _ _).mpr isDue
  simp [run, step, Scheduler.step, Scheduler.moveTo, follow, fires, Fire.conclude, phase, found,
    calm, slept, enqueued, idle]

end Vigil

/-! ## What is promised of a run -/

/-- The jobs fire when they should. -/
structure Vigil.Faithful (jobs : List Cron.Job) (vigil : Vigil) : Prop where
  /-- Every round fires the job with the least pending time, the first one of several. -/
  due : ∀ fire ∈ vigil.fires, fire.agenda.IsDue fire.place fire.due
  /-- A job's pending time is the one found after its last fire and the clock's reading then. -/
  pending : ∀ before fire after, vigil.fires = before ++ fire :: after →
    ∃ start, vigil.start = some start ∧ fire.agenda = .expected jobs start before
  fires : ∀ fire ∈ vigil.fires, ∃ job, jobs[fire.place]? = some job ∧
    job.schedule.FiresAt fire.due
  increasing : ∀ place, (vigil.firesOf place).Pairwise fun earlier later =>
    earlier.due.IsBefore later.due
  passed : ∀ place job, jobs[place]? = some job → (vigil.firesOf place).IsChain job.PassesOver
  /-- Whoever is due is fired, if nothing keeps the round from going through. -/
  rounds : ∀ place due, vigil.scheduler.phase = .choosing → vigil.scheduler.agenda.IsDue place due →
    ∀ choosing sleeping firing enqueueing : SchedulerView, ∀ result,
      choosing.now + Scheduler.millisecondsUntil choosing.clock due ≤ sleeping.now →
      sleeping.cancelled = false → enqueueing.enqueued = some result →
        (vigil.run [choosing, sleeping, firing, enqueueing]).fires =
          vigil.fires ++
            [⟨vigil.scheduler.agenda, place, due, some (result, enqueueing.clock)⟩]
  /-- The scheduler ends if it is stopped or nothing is left to fire, and only then. -/
  ends : vigil.scheduler.phase = .ended →
    vigil.heeded = true ∨ ∀ place time, ¬ vigil.scheduler.agenda.PendingAt place time
  heeds : vigil.heeded = true → ∀ views, vigil.run views = vigil
  /-- Nothing is fired under a cancelled token, unless the sleep was over before. -/
  stops : (∀ place due, vigil.scheduler.phase ≠ .firing place due) →
    ∀ views : List SchedulerView, (∀ view ∈ views, view.cancelled = true) →
      (vigil.run views).fires.length ≤ vigil.fires.length

namespace Vigil

variable {jobs : List Cron.Job} {vigil : Vigil}

/-- A scheduler that chooses enqueues nothing. -/
theorem Sound.idle (sound : vigil.Sound jobs) (phase : vigil.scheduler.phase = .choosing) :
    vigil.current = none := by
  rcases sound with fresh | ⟨start, begun⟩
  · exact fresh.current
  · have standing := begun.standing
    rwa [Standing, phase] at standing

theorem Sound.ends (sound : vigil.Sound jobs) (ended : vigil.scheduler.phase = .ended) :
    vigil.heeded = true ∨ ∀ place time, ¬ vigil.scheduler.agenda.PendingAt place time := by
  rcases sound with fresh | ⟨start, begun⟩
  · cases fresh.phase.symm.trans ended
  · have standing := begun.standing
    rw [Standing, ended] at standing
    exact standing.2

theorem Sound.ended_of_heeded (sound : vigil.Sound jobs) (heeded : vigil.heeded = true) :
    vigil.scheduler.phase = .ended := by
  rcases sound with fresh | ⟨start, begun⟩
  · exact absurd heeded (fresh.heeded ▸ Bool.false_ne_true)
  · exact begun.heeded heeded

theorem Sound.faithful (wellFormed : ∀ job ∈ jobs, job.schedule.WellFormed)
    (sound : vigil.Sound jobs) : vigil.Faithful jobs := by
  obtain ⟨start, isStart, history⟩ :
      ∃ start, (vigil.fires ≠ [] → vigil.start = some start) ∧ History jobs start vigil.fires := by
    rcases sound.fires_history with none | ⟨start, isStart, history⟩
    · exact ⟨default, fun some => absurd none some, none ▸ .nil⟩
    · exact ⟨start, fun _ => isStart, history⟩
  have formed : ∀ {place : Nat} {job : Cron.Job}, jobs[place]? = some job →
      job.schedule.WellFormed :=
    fun isJob => wellFormed _ (List.mem_of_getElem? isJob)
  refine ⟨fun fire => history.isDue, ?_, ?_, ?_, ?_, ?_, sound.ends, ?_, ?_⟩
  · intro before fire after split
    refine ⟨start, isStart ?_, history.agenda_eq split⟩
    rw [split]
    exact List.append_ne_nil_of_right_ne_nil _ (List.cons_ne_nil _ _)
  · intro fire member
    obtain ⟨job, asked, isJob, found⟩ := history.found member
    exact ⟨job, isJob, (Cron.Schedule.nextAfter_sound (formed isJob) found).2⟩
  · intro place
    cases isJob : jobs[place]? with
    | some job =>
      have chain := history.isChain isJob
      have ordered := chain.imp fun _ _ succeeds => succeeds.isBefore (formed isJob)
      have trans : Trans (fun earlier later : Fire => earlier.due.IsBefore later.due)
          (fun earlier later : Fire => earlier.due.IsBefore later.due)
          (fun earlier later : Fire => earlier.due.IsBefore later.due) := ⟨Instant.IsBefore.trans⟩
      exact ordered.pairwise
    | none =>
      have nothing : vigil.firesOf place = [] := by
        rw [firesOf, List.filter_eq_nil_iff]
        intro fire member same
        obtain ⟨job, asked, isJob', -⟩ := history.found member
        rw [of_decide_eq_true same, isJob] at isJob'
        cases isJob'
      rw [nothing]
      exact .nil
  · intro place job isJob
    exact (history.isChain isJob).imp fun _ _ succeeds => succeeds.passes
  · intro place due phase isDue choosing sleeping firing enqueueing result slept calm enqueued
    exact run_round phase (sound.idle phase) isDue slept calm enqueued
  · exact fun heeded => run_ended (sound.ended_of_heeded heeded)
  · exact fun asleep views cancelled => run_cancelled cancelled asleep

end Vigil

end WorkHost
