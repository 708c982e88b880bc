import WorkHost.Host.Worker

/-!
Contract: the events among what the worker reports.

Of its log lines, spans, measurements and events only the last are kept here. Each
report of the worker holds at most one event, which the lemmas below name.
-/

namespace WorkHost

def Report.event? : Report → Option EventKind
  | .event kind => some kind
  | _ => none

def Report.events (reports : List Report) : List EventKind := reports.filterMap Report.event?

@[simp]
theorem Report.events_nil : events [] = [] := rfl

@[simp]
theorem Report.events_append (first second : List Report) :
    events (first ++ second) = events first ++ events second := List.filterMap_append

/-- The event about the end of an item. -/
def Flight.endEvent (flight : Flight) (durationMs : Nat) : ExecutionResult → EventKind
  | .completed => .workCompleted flight.id durationMs
  | .failed reason => .workFailed flight.id reason durationMs
  | .panicked message => .workPanicked flight.id message
  | .aborted => .forcedStop flight.id

/-- The item that an event says was started. -/
def EventKind.startedId? : EventKind → Option WorkId
  | .workStarted id _ _ => some id
  | _ => none

/-- How many items an event says were discarded. -/
def EventKind.discardCount? : EventKind → Option Nat
  | .workDiscarded count => some count
  | _ => none

@[simp]
theorem Flight.startedId?_endEvent (flight : Flight) (durationMs : Nat)
    (result : ExecutionResult) : (flight.endEvent durationMs result).startedId? = none := by
  cases result <;> rfl

@[simp]
theorem Flight.discardCount?_endEvent (flight : Flight) (durationMs : Nat)
    (result : ExecutionResult) : (flight.endEvent durationMs result).discardCount? = none := by
  cases result <;> rfl

@[simp]
theorem Flight.events_startReports (flight : Flight) :
    Report.events flight.startReports =
      [.workStarted flight.id flight.kind.text flight.dependency] := rfl

@[simp]
theorem Flight.events_reports (flight : Flight) (graceMs durationMs : Nat)
    (result : ExecutionResult) :
    Report.events (flight.reports graceMs durationMs result) =
      [flight.endEvent durationMs result] := by
  cases result <;> rfl

namespace Worker

@[simp]
theorem events_startedReports (graceMs : Nat) :
    Report.events (startedReports graceMs) = [.workerStarted] := rfl

@[simp]
theorem events_drainReports (source : WorkerState) (queued : Nat) :
    Report.events (drainReports source queued) = [.drainStarted] := rfl

@[simp]
theorem events_discardReports (count : Nat) :
    Report.events (discardReports count) =
      if count = 0 then [] else [.workDiscarded count] := by
  unfold discardReports
  split <;> rfl

@[simp]
theorem events_stoppedReports (source : WorkerState) (outcome : ShutdownOutcome) :
    Report.events (stoppedReports source outcome) = [.workerStopped] := rfl

@[simp]
theorem events_leftBehind (flight : Flight) : Report.events [leftBehind flight] = [] := rfl

@[simp]
theorem events_handlesDropped : Report.events [handlesDropped] = [] := rfl

end Worker

end WorkHost
