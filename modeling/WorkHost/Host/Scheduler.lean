import WorkHost.Cron.Job
import WorkHost.Telemetry.Report

/-!
Contract: the scheduler, which enqueues work at the fire times of its jobs.

Each job has at most one pending time. The least one is waited for, among equals that
of the job added first; then the job's work is enqueued, whatever comes of it, and its
next time is searched after both the fired time and the time on the clock. Times that
the clock has passed by then are skipped.
-/

namespace WorkHost

open Calendar

/-- A job and the time at which it fires next. -/
structure Pending where
  job : Cron.Job
  next : Option Instant
deriving DecidableEq, Repr

/-- The jobs in the order in which they were added. -/
abbrev Agenda := List Pending

namespace Agenda

def start (clock : Instant) (jobs : List Cron.Job) : Agenda :=
  jobs.map fun job => ⟨job, job.nextAfter clock⟩

/-- The earlier of two candidates, the first if they are equal. -/
def earlier (best : Option (Nat × Instant)) (candidate : Nat × Instant) :
    Option (Nat × Instant) :=
  match best with
  | none => some candidate
  | some (index, time) =>
    if time.le candidate.2 then some (index, time) else some candidate

/-- The job with the least pending time, by its place, and that time. -/
def due? (agenda : Agenda) : Option (Nat × Instant) :=
  let candidates := agenda.zipIdx.filterMap fun (pending, index) =>
    pending.next.map (index, ·)
  candidates.foldl earlier none

/-- Searches the next time of a job that has fired. -/
def reschedule (agenda : Agenda) (index : Nat) (fired clock : Instant) : Agenda :=
  agenda.modify index fun pending =>
    { pending with next := pending.job.nextAfter (fired.max clock) }

end Agenda

inductive SchedulerPhase where
  | starting
  | choosing
  | sleeping (index : Nat) (due : Instant) (deadline : Nat)
  | firing (index : Nat) (due : Instant)
  /-- The work is being enqueued. -/
  | enqueueing (index : Nat) (due : Instant)
  | ended
deriving DecidableEq, Repr

structure Scheduler where
  jobs : List Cron.Job
  agenda : Agenda
  phase : SchedulerPhase
deriving DecidableEq, Repr

/-- What the scheduler sees of its surroundings. -/
structure SchedulerView where
  /-- Milliseconds since the start. -/
  now : Nat
  clock : Instant
  cancelled : Bool
  /-- How enqueueing came out, once it has. -/
  enqueued : Option (Except Failure WorkId)

/-- The effect of one step. -/
structure SchedulerStride where
  scheduler : Scheduler
  reports : List Report
  /-- The place of the job whose work is to be enqueued. -/
  enqueue : Option Nat

namespace Scheduler

def create (jobs : List Cron.Job) : Scheduler := ⟨jobs, [], .starting⟩

def notStarted : Report := .line .info "no cron jobs configured, scheduler not started" []

def skipped (pending : Pending) : List Report :=
  match pending.next with
  | some _ => []
  | none =>
    [.line .warn "schedule has no upcoming fire time, skipping"
      [("job", .text pending.job.name)]]

def exhausted : Report := .line .info "no upcoming fire times, scheduler exiting" []

def stopped : Report := .line .info "cron scheduler stopped" []

def fireReports (job : String) : List Report :=
  [.log (.span "scheduler.fire" [("job.name", .text job)]),
    .line .info "start scheduled background work" [("job", .text job)]]

def resultReports (job : String) : Except Failure WorkId → List Report
  | .ok id =>
    [.measure (.fired job),
      .line .info "scheduled background work queued" [("job", .text job), ("work.id", .id id)]]
  | .error failure =>
    [.line .warn "failed to queue scheduled work"
      [("job", .text job), ("error", .text failure.message)]]

/-- Whole milliseconds from one instant to a later one, rounded up. -/
def millisecondsUntil (clock due : Instant) : Nat :=
  let nanos := (due.seconds - clock.seconds) * 1000000000 + ((due.nanos : Int) - clock.nanos)
  (nanos.toNat + 999999) / 1000000

def moveTo (scheduler : Scheduler) (phase : SchedulerPhase) (reports : List Report) :
    Option SchedulerStride :=
  some ⟨{ scheduler with phase }, reports, none⟩

def jobName (scheduler : Scheduler) (index : Nat) : String :=
  (scheduler.agenda[index]?.map (·.job.name)).getD ""

/-- One step; nothing if the scheduler has to wait or has ended. -/
def step (view : SchedulerView) (scheduler : Scheduler) : Option SchedulerStride :=
  match scheduler.phase with
  | .starting =>
    if scheduler.jobs.isEmpty then scheduler.moveTo .ended [notStarted]
    else
      let agenda := Agenda.start view.clock scheduler.jobs
      { scheduler with agenda }.moveTo .choosing
        (.line .info "cron scheduler started" [("jobs", .number scheduler.jobs.length)]
          :: agenda.flatMap skipped)
  | .choosing =>
    match scheduler.agenda.due? with
    | none => scheduler.moveTo .ended [exhausted, stopped]
    | some (index, due) =>
      scheduler.moveTo (.sleeping index due (view.now + millisecondsUntil view.clock due)) []
  | .sleeping index due deadline =>
    if view.cancelled then scheduler.moveTo .ended [stopped]
    else if deadline ≤ view.now then scheduler.moveTo (.firing index due) []
    else none
  | .firing index due =>
    some ⟨{ scheduler with phase := .enqueueing index due },
      fireReports (scheduler.jobName index), some index⟩
  | .enqueueing index due =>
    match view.enqueued with
    | none => none
    | some result =>
      let agenda := scheduler.agenda.reschedule index due view.clock
      { scheduler with agenda }.moveTo .choosing (resultReports (scheduler.jobName index) result)
  | .ended => none

def deadline? (scheduler : Scheduler) : Option Nat :=
  match scheduler.phase with
  | .sleeping _ _ deadline => some deadline
  | _ => none

def hasEnded (scheduler : Scheduler) : Bool := scheduler.phase = .ended

end Scheduler

end WorkHost
