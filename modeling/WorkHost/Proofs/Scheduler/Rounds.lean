import Mathlib.Data.List.Chain
import WorkHost.Proofs.Cron.FireTimes
import WorkHost.Proofs.Scheduler.Agenda

/-!
Contract: what a scheduler fires, over runs of any length.

A run is a list of views: the clock of each may show anything, also an earlier time than
before, and every enqueueing may come out in any way. The record of fires (`Vigil`)
influences nothing.

`Turn` has one rule for every way in which a step of the scheduler can go. `History` says
what the fires of a run are: each fires the job that is due, and a job's pending time is what
is found after its last fire and after what the clock showed when that had been enqueued
(`Agenda.expected`). From it follows what is claimed of the fires of one job (`Succeeds`).
-/

namespace WorkHost

open Calendar

/-- The work of a job that the scheduler has begun to enqueue. -/
structure Fire where
  /-- The jobs with their pending times when the round began. -/
  agenda : Agenda
  place : Nat
  due : Instant
  /-- How enqueueing came out and what the clock showed then, once it has. -/
  ending : Option (Except Failure WorkId × Instant)

/-- A scheduler with what it has done so far. -/
structure Vigil where
  scheduler : Scheduler
  /-- What the clock showed when the first times were searched. -/
  start : Option Instant
  /-- The fires whose work has been enqueued, or could not be. -/
  past : List Fire
  current : Option Fire
  /-- Whether the scheduler has looked at its token and found it cancelled. -/
  heeded : Bool

/-! ## The steps of a scheduler -/

namespace Scheduler

/-- All that one step of a scheduler can do. -/
inductive Turn (view : SchedulerView) (scheduler : Scheduler) : SchedulerStride → Prop where
  | decline (phase : scheduler.phase = .starting) (empty : scheduler.jobs = []) :
    Turn view scheduler ⟨{ scheduler with phase := .ended }, [notStarted], none⟩
  | begin (phase : scheduler.phase = .starting) :
    Turn view scheduler
      ⟨{ scheduler with agenda := .start view.clock scheduler.jobs, phase := .choosing },
        .line .info "cron scheduler started" [("jobs", .number scheduler.jobs.length)]
          :: (Agenda.start view.clock scheduler.jobs).flatMap skipped, none⟩
  | exhaust (phase : scheduler.phase = .choosing)
    (idle : ∀ place time, ¬ scheduler.agenda.PendingAt place time) :
    Turn view scheduler ⟨{ scheduler with phase := .ended }, [exhausted, stopped], none⟩
  | choose {place : Nat} {due : Instant} (phase : scheduler.phase = .choosing)
    (isDue : scheduler.agenda.IsDue place due) :
    Turn view scheduler
      ⟨{ scheduler with
          phase := .sleeping place due (view.now + millisecondsUntil view.clock due) }, [], none⟩
  | heed {place : Nat} {due : Instant} {deadline : Nat}
    (phase : scheduler.phase = .sleeping place due deadline) (cancelled : view.cancelled = true) :
    Turn view scheduler ⟨{ scheduler with phase := .ended }, [stopped], none⟩
  | wake {place : Nat} {due : Instant} {deadline : Nat}
    (phase : scheduler.phase = .sleeping place due deadline) (calm : view.cancelled = false)
    (slept : deadline ≤ view.now) :
    Turn view scheduler ⟨{ scheduler with phase := .firing place due }, [], none⟩
  | fire {place : Nat} {due : Instant} (phase : scheduler.phase = .firing place due) :
    Turn view scheduler
      ⟨{ scheduler with phase := .enqueueing place due },
        fireReports (scheduler.jobName place), some place⟩
  | conclude {place : Nat} {due : Instant} {result : Except Failure WorkId}
    (phase : scheduler.phase = .enqueueing place due) (enqueued : view.enqueued = some result) :
    Turn view scheduler
      ⟨{ scheduler with
          agenda := scheduler.agenda.reschedule place due view.clock, phase := .choosing },
        resultReports (scheduler.jobName place) result, none⟩

theorem step_turn {view : SchedulerView} {scheduler : Scheduler} {stride : SchedulerStride}
    (stepped : scheduler.step view = some stride) : Turn view scheduler stride := by
  unfold step moveTo at stepped
  split at stepped
  case h_1 phase =>
    split at stepped
    · rename_i empty
      exact Option.some.inj stepped ▸ .decline phase (List.isEmpty_iff.mp empty)
    · exact Option.some.inj stepped ▸ .begin phase
  case h_2 phase =>
    split at stepped
    · rename_i idle
      exact Option.some.inj stepped ▸ .exhaust phase ((Agenda.due?_eq_none_iff _).mp idle)
    · rename_i place due found
      exact Option.some.inj stepped ▸ .choose phase ((Agenda.due?_eq_some_iff _ _ _).mp found)
  case h_3 place due deadline phase =>
    cases cancelled : view.cancelled with
    | true =>
      rw [cancelled, if_pos rfl] at stepped
      exact Option.some.inj stepped ▸ .heed phase cancelled
    | false =>
      rw [cancelled, if_neg Bool.false_ne_true] at stepped
      split at stepped
      · rename_i slept
        exact Option.some.inj stepped ▸ .wake phase cancelled slept
      · cases stepped
  case h_4 place due phase => exact Option.some.inj stepped ▸ .fire phase
  case h_5 place due phase =>
    split at stepped
    · cases stepped
    · rename_i result enqueued
      exact Option.some.inj stepped ▸ .conclude phase enqueued
  case h_6 => cases stepped

/-- Whether the next step looks at the token and finds it cancelled. -/
def heeds (view : SchedulerView) (scheduler : Scheduler) : Bool :=
  view.cancelled &&
    match scheduler.phase with
    | .sleeping .. => true
    | _ => false

end Scheduler

/-! ## The record -/

namespace Fire

/-- The work has been enqueued, or could not be. -/
def conclude (fire : Fire) (view : SchedulerView) : Fire :=
  { fire with ending := view.enqueued.map (·, view.clock) }

/-- The instant after which the job's next time is searched. -/
def asked? (fire : Fire) : Option Instant := fire.ending.map fun ending => fire.due.max ending.2

/-- All about a fire but how enqueueing came out. -/
def timing (fire : Fire) : Agenda × Nat × Instant × Option Instant :=
  (fire.agenda, fire.place, fire.due, fire.ending.map Prod.snd)

end Fire

namespace Vigil

def create (jobs : List Cron.Job) : Vigil := ⟨.create jobs, none, [], none, false⟩

/-- The fires in their order. -/
def fires (vigil : Vigil) : List Fire := vigil.past ++ vigil.current.toList

/-- The fires of the job at a place. -/
def firesOf (vigil : Vigil) (place : Nat) : List Fire :=
  vigil.fires.filter fun fire => fire.place = place

/-- Takes in a stride of the scheduler. -/
def follow (vigil : Vigil) (view : SchedulerView) (stride : SchedulerStride) : Vigil where
  scheduler := stride.scheduler
  start :=
    match vigil.scheduler.phase with
    | .starting => some view.clock
    | _ => vigil.start
  past :=
    match vigil.scheduler.phase with
    | .enqueueing .. => vigil.past ++ (vigil.current.map (·.conclude view)).toList
    | _ => vigil.past
  current :=
    match stride.enqueue, vigil.scheduler.phase with
    | some place, .firing _ due => some ⟨vigil.scheduler.agenda, place, due, none⟩
    | _, .enqueueing .. => none
    | _, _ => vigil.current
  heeded := vigil.heeded || vigil.scheduler.heeds view

def step (vigil : Vigil) (view : SchedulerView) : Vigil :=
  (vigil.scheduler.step view).elim vigil (vigil.follow view)

def run (vigil : Vigil) (views : List SchedulerView) : Vigil := views.foldl step vigil

theorem step_cases (vigil : Vigil) (view : SchedulerView) :
    vigil.step view = vigil ∨
      ∃ stride, Scheduler.Turn view vigil.scheduler stride ∧
        vigil.step view = vigil.follow view stride := by
  unfold step
  cases stepped : vigil.scheduler.step view with
  | none => exact .inl rfl
  | some stride => exact .inr ⟨stride, Scheduler.step_turn stepped, rfl⟩

/-- What every step keeps, every run keeps. -/
theorem run_keeps {Keeps : Vigil → Prop}
    (stepKeeps : ∀ vigil view, Keeps vigil → Keeps (vigil.step view)) {vigil : Vigil}
    (holds : Keeps vigil) (views : List SchedulerView) : Keeps (vigil.run views) := by
  induction views generalizing vigil with
  | nil => exact holds
  | cons view rest inductionHypothesis => exact inductionHypothesis (stepKeeps vigil view holds)

end Vigil

/-! ## What the fires of a run are -/

/-- The instant after which the next time of the job at a place was searched last. -/
def lastAsked (start : Instant) (place : Nat) (past : List Fire) : Instant :=
  ((past.filter fun fire => fire.place = place).getLast?.bind Fire.asked?).getD start

namespace Agenda

/-- The pending times after some fires: each job waits for what was found after its last one. -/
def expected (jobs : List Cron.Job) (start : Instant) (past : List Fire) : Agenda :=
  jobs.mapIdx fun place job => ⟨job, job.nextAfter (lastAsked start place past)⟩

variable {jobs : List Cron.Job} {start : Instant}

theorem expected_nil (jobs : List Cron.Job) (start : Instant) :
    expected jobs start [] = .start start jobs := by
  apply List.ext_getElem?
  intro place
  rw [expected, List.getElem?_mapIdx, getElem?_start]
  rfl

theorem lastAsked_append (start : Instant) (place : Nat) (past : List Fire) {fire : Fire}
    {asked : Instant} (asks : fire.asked? = some asked) :
    lastAsked start place (past ++ [fire]) =
      if fire.place = place then asked else lastAsked start place past := by
  unfold lastAsked
  rw [List.filter_append]
  by_cases same : fire.place = place
  · simp [same, asks]
  · simp [same]

/-- A fire that has ended changes the pending time of its own job only. -/
theorem expected_append (past : List Fire) {fire : Fire} {reading : Instant}
    {result : Except Failure WorkId} (ended : fire.ending = some (result, reading)) :
    (expected jobs start past).reschedule fire.place fire.due reading =
      expected jobs start (past ++ [fire]) := by
  have asks : fire.asked? = some (fire.due.max reading) := by
    rw [Fire.asked?, ended]
    rfl
  apply List.ext_getElem?
  intro place
  rw [getElem?_reschedule, expected, expected, List.getElem?_mapIdx, List.getElem?_mapIdx,
    lastAsked_append start place past asks]
  cases jobs[place]? with
  | none => rfl
  | some job =>
    by_cases same : fire.place = place
    · simp [same]
    · simp [same]

/-- A pending time is what the search has found for the job. -/
theorem PendingAt.found {past : List Fire} {place : Nat} {time : Instant}
    (pending : (expected jobs start past).PendingAt place time) :
    ∃ job, jobs[place]? = some job ∧ job.nextAfter (lastAsked start place past) = some time := by
  obtain ⟨entry, found, next⟩ := pending
  rw [expected, List.getElem?_mapIdx] at found
  obtain ⟨job, isJob, rfl⟩ := Option.map_eq_some_iff.mp found
  exact ⟨job, isJob, next⟩

end Agenda

/-- The fires of a run in their order: each fires the job that was due, and all but the last one
have ended. -/
inductive History (jobs : List Cron.Job) (start : Instant) : List Fire → Prop where
  | nil : History jobs start []
  | snoc {past : List Fire} {fire : Fire} : History jobs start past →
    (∀ earlier ∈ past, earlier.ending.isSome = true) →
    fire.agenda = .expected jobs start past → fire.agenda.IsDue fire.place fire.due →
      History jobs start (past ++ [fire])

/-- One fire of a job comes next after another: its time was searched after both the earlier
fire and what the clock showed once that had been enqueued. -/
def Cron.Job.Succeeds (job : Cron.Job) (earlier later : Fire) : Prop :=
  ∃ asked, earlier.asked? = some asked ∧ job.nextAfter asked = some later.due

/-- What would have fired between two fires of a job was passed over because the clock had
passed it when the earlier one had been enqueued, if the search then found the next fire
time. -/
def Cron.Job.PassesOver (job : Cron.Job) (earlier later : Fire) : Prop :=
  ∃ result reading, earlier.ending = some (result, reading) ∧
    (job.schedule.IsNext (earlier.due.max reading) (job.nextAfter (earlier.due.max reading)) →
      ∀ missed, job.schedule.FiresAt missed → earlier.due.IsBefore missed →
        missed.IsBefore later.due → missed.le reading = true)

namespace History

variable {jobs : List Cron.Job} {start : Instant} {fires : List Fire}

theorem isDue (history : History jobs start fires) {fire : Fire} (member : fire ∈ fires) :
    fire.agenda.IsDue fire.place fire.due := by
  induction history with
  | nil => cases member
  | snoc _ _ _ isDue inductionHypothesis =>
    rcases List.mem_append.mp member with old | new
    · exact inductionHypothesis old
    · rw [List.mem_singleton.mp new]
      exact isDue

theorem agenda_eq (history : History jobs start fires) {before after : List Fire} {fire : Fire}
    (split : fires = before ++ fire :: after) : fire.agenda = .expected jobs start before := by
  induction history generalizing after with
  | nil => simp at split
  | @snoc past last history _ agenda _ inductionHypothesis =>
    rcases List.eq_nil_or_concat after with rfl | ⟨between, final, rfl⟩
    · obtain ⟨rfl, same⟩ := List.append_inj' split rfl
      obtain rfl := List.singleton_inj.mp same
      exact agenda
    · have split' : past ++ [last] = (before ++ fire :: between) ++ [final] := by
        rw [split, List.concat_eq_append, List.append_assoc, List.cons_append]
      exact inductionHypothesis (List.append_inj' split' rfl).1

/-- The fires of one job are what the search goes through. -/
theorem isChain (history : History jobs start fires) {place : Nat} {job : Cron.Job}
    (isJob : jobs[place]? = some job) :
    (fires.filter fun fire => fire.place = place).IsChain job.Succeeds := by
  induction history with
  | nil => exact .nil
  | @snoc past fire _ ended agenda isDue inductionHypothesis =>
    rw [List.filter_append]
    by_cases same : fire.place = place
    · rw [List.filter_cons_of_pos (by simpa using same), List.filter_nil, List.isChain_append]
      refine ⟨inductionHypothesis, .singleton fire, ?_⟩
      intro earlier isLast later isFire
      rw [List.head?_cons, Option.mem_some_iff] at isFire
      subst isFire
      rw [agenda, same] at isDue
      obtain ⟨job', isJob', found⟩ := isDue.pending.found
      rw [isJob, Option.some.injEq] at isJob'
      subst isJob'
      have member := (List.mem_filter.mp (List.mem_of_getLast? isLast)).1
      obtain ⟨ending, isEnding⟩ := Option.isSome_iff_exists.mp (ended earlier member)
      have asks : earlier.asked? = some (earlier.due.max ending.2) := by
        rw [Fire.asked?, isEnding]
        rfl
      refine ⟨_, asks, ?_⟩
      rw [Option.mem_def] at isLast
      rw [lastAsked, isLast, Option.bind_some, asks, Option.getD_some] at found
      exact found
    · rw [List.filter_cons_of_neg (by simpa using same), List.filter_nil, List.append_nil]
      exact inductionHypothesis

/-- What is fired is found by a search. -/
theorem found (history : History jobs start fires) {fire : Fire} (member : fire ∈ fires) :
    ∃ job asked, jobs[fire.place]? = some job ∧ job.nextAfter asked = some fire.due := by
  obtain ⟨before, after, split⟩ := List.append_of_mem member
  have isDue := history.isDue member
  rw [history.agenda_eq split] at isDue
  obtain ⟨job, isJob, found⟩ := isDue.pending.found
  exact ⟨job, _, isJob, found⟩

end History

namespace Cron.Job.Succeeds

variable {job : Cron.Job} {earlier later : Fire}

theorem isBefore (wellFormed : job.schedule.WellFormed) (succeeds : job.Succeeds earlier later) :
    earlier.due.IsBefore later.due := by
  obtain ⟨asked, asks, found⟩ := succeeds
  obtain ⟨ending, -, rfl⟩ := Option.map_eq_some_iff.mp asks
  exact .of_le (Instant.le_max_left _ _) (Schedule.nextAfter_sound wellFormed found).1

theorem passes (succeeds : job.Succeeds earlier later) : job.PassesOver earlier later := by
  obtain ⟨asked, asks, found⟩ := succeeds
  obtain ⟨⟨result, reading⟩, isEnding, rfl⟩ := Option.map_eq_some_iff.mp asks
  refine ⟨result, reading, isEnding, ?_⟩
  intro exact' missed fires after before
  rw [found] at exact'
  by_contra ahead
  have afterReading : reading.IsBefore missed := Bool.eq_false_iff.mpr ahead
  have least := exact'.2 missed ⟨fires, Instant.isBefore_of_max after afterReading⟩
  have whole := (Instant.isBefore_iff_of_whole exact'.1.1.1).mp before
  omega

end Cron.Job.Succeeds

end WorkHost
