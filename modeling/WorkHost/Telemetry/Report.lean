import WorkHost.Event.Kind

/-!
Contract: what the library reports about its work.

There are four kinds of report: events for programs, log lines and spans for people,
and measurements for dashboards.
-/

namespace WorkHost

inductive Level where
  | error
  | warn
  | info
  | debug
  | trace
deriving DecidableEq, Repr, Inhabited

namespace Level

def text : Level → String
  | .error => "error"
  | .warn => "warn"
  | .info => "info"
  | .debug => "debug"
  | .trace => "trace"

def all : List Level := [.error, .warn, .info, .debug, .trace]

/-- How much is reported down to this level. -/
def verbosity : Level → Nat
  | .error => 1
  | .warn => 2
  | .info => 3
  | .debug => 4
  | .trace => 5

end Level

inductive WorkKind where
  | unscoped
  | scoped
deriving DecidableEq, Repr

def WorkKind.text : WorkKind → String
  | .unscoped => "unscoped"
  | .scoped => "scoped"

/-- The label under which the outcome of an enqueue is counted. -/
inductive EnqueueResult where
  | ok
  | full
  | cancelled
  | closed
deriving DecidableEq, Repr

def EnqueueResult.text : EnqueueResult → String
  | .ok => "ok"
  | .full => "full"
  | .cancelled => "cancelled"
  | .closed => "closed"

/-- The label under which the end of an item is counted. -/
inductive WorkOutcome where
  | ok
  | error
  | panic
  | aborted
deriving DecidableEq, Repr

def WorkOutcome.text : WorkOutcome → String
  | .ok => "ok"
  | .error => "error"
  | .panic => "panic"
  | .aborted => "aborted"

inductive FieldValue where
  | text (value : String)
  | number (value : Nat)
  | id (value : WorkId)
deriving DecidableEq, Repr

abbrev LogFields := List (String × FieldValue)

inductive LogRecord where
  | line (level : Level) (message : String) (fields : LogFields)
  | span (name : String) (fields : LogFields)
  /-- Fields that a span gets later. -/
  | spanFields (name : String) (fields : LogFields)
deriving DecidableEq, Repr

/-- One measurement. -/
inductive Measure where
  | enqueued (kind : WorkKind) (result : EnqueueResult)
  | executed (kind : WorkKind) (outcome : WorkOutcome)
  | duration (kind : WorkKind) (milliseconds : Nat)
  | fired (job : String)
deriving DecidableEq, Repr

inductive Report where
  | event (kind : EventKind)
  | log (record : LogRecord)
  | measure (measure : Measure)
deriving DecidableEq, Repr

namespace Report

def line (level : Level) (message : String) (fields : LogFields) : Report :=
  .log (.line level message fields)

end Report

end WorkHost
