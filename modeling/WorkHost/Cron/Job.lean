import WorkHost.Cron.Search
import WorkHost.Failure

/-!
Contract: named schedules.
-/

namespace WorkHost.Cron

structure Job where
  name : String
  schedule : Schedule
deriving DecidableEq, Repr

namespace Job

/-- The only reason for which an expression is refused. -/
def badExpression : String := "Invalid expression: Invalid cron expression."

def parse (name expression : String) : Except Failure Job :=
  match Schedule.parse? expression with
  | some schedule => .ok ⟨name, schedule⟩
  | none => .error (.schedule name badExpression)

/-- The first fire time that the search finds after an instant. -/
def nextAfter (job : Job) (after : Calendar.Instant) : Option Calendar.Instant :=
  job.schedule.nextAfter after

end Job

end WorkHost.Cron
