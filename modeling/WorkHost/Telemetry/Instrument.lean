import WorkHost.Telemetry.Report

/-!
Contract: the instruments that measurements go to, and their totals.

A total is kept for each instrument and each set of labels: the sum for a counter,
the number of samples for a histogram.
-/

namespace WorkHost

inductive InstrumentKind where
  | counter
  | histogram
deriving DecidableEq, Repr

def InstrumentKind.text : InstrumentKind → String
  | .counter => "counter"
  | .histogram => "histogram"

structure Instrument where
  name : String
  kind : InstrumentKind
  description : String
  unit : String
deriving DecidableEq, Repr

namespace Instrument

/-- The meter that all instruments belong to. -/
def meter : String := "sampleapp-bg"

def workEnqueued : Instrument :=
  ⟨"sampleapp.work.enqueued", .counter, "Number of work items offered to the task queue", ""⟩

def workExecuted : Instrument :=
  ⟨"sampleapp.work.executed", .counter, "Number of work items executed by the worker", ""⟩

def workDuration : Instrument :=
  ⟨"sampleapp.work.duration_ms", .histogram, "Work item execution time in milliseconds", "ms"⟩

def schedulerFired : Instrument :=
  ⟨"sampleapp.scheduler.fired", .counter, "Number of scheduled job runs enqueued", ""⟩

def all : List Instrument := [workEnqueued, workExecuted, workDuration, schedulerFired]

end Instrument

namespace Measure

def instrument : Measure → Instrument
  | .enqueued .. => .workEnqueued
  | .executed .. => .workExecuted
  | .duration .. => .workDuration
  | .fired _ => .schedulerFired

/-- The labels in alphabetical order of their keys. -/
def labels : Measure → List (String × String)
  | .enqueued kind result => [("kind", kind.text), ("result", result.text)]
  | .executed kind outcome => [("kind", kind.text), ("result", outcome.text)]
  | .duration kind _ => [("kind", kind.text)]
  | .fired job => [("job", job)]

/-- The instrument with the labels in braces. -/
def series (measure : Measure) : String :=
  let labels := measure.labels.map fun (key, value) => key ++ "=" ++ value
  measure.instrument.name ++ "\x7b" ++ String.intercalate "," labels ++ "\x7d"

/-- How many measurements went to each series, in the order of first appearance. -/
def totals (measures : List Measure) : List (String × Nat) :=
  let names := measures.map series
  names.eraseDups.map fun name => (name, names.count name)

end Measure

end WorkHost
