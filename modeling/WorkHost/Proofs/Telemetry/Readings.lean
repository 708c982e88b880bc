import WorkHost.Proofs.Host.Advance
import WorkHost.Proofs.Host.Events

/-!
Contract: what the reports about items say, each kind of report read by itself.

A measurement is read by its labels and a span by its fields. Events and log lines about the end
of an item are read as what they tell of it (`Telling`), a line by its message and the fields it
has. `Agrees` says that all of them tell the same of the items that were started; it is kept by
the reports of a start, by those of an end, and by all others.
-/

namespace WorkHost

/-! ## What is told of the end of an item -/

structure Telling where
  id : WorkId
  outcome : WorkOutcome
  /-- The text of an error or of a panic. -/
  text : Option String
deriving DecidableEq, Repr

def ExecutionResult.text? : ExecutionResult → Option String
  | .failed reason => some reason
  | .panicked message => some message
  | .completed | .aborted => none

def ExecutionResult.tell (result : ExecutionResult) (id : WorkId) : Telling :=
  ⟨id, result.outcome, result.text?⟩

def EventKind.telling? : EventKind → Option Telling
  | .workCompleted id _ => some ⟨id, .ok, none⟩
  | .workFailed id error _ => some ⟨id, .error, some error⟩
  | .workPanicked id message => some ⟨id, .panic, some message⟩
  | .forcedStop id => some ⟨id, .aborted, none⟩
  | _ => none

namespace WorkOutcome

/-- How loudly an end is logged. -/
def level : WorkOutcome → Level
  | .ok => .debug
  | .error | .panic => .error
  | .aborted => .warn

/-- The outcome that a log line is about, by its message. -/
def ofMessage? (message : String) : Option WorkOutcome :=
  if message = "background work completed" then some .ok
  else if message = "background work failed" then some .error
  else if message = "background work panicked" then some .panic
  else if message = "forced stop: in-flight work exceeded shutdown timeout" then some .aborted
  else none

end WorkOutcome

namespace FieldValue

def id? : FieldValue → Option WorkId
  | .id value => some value
  | _ => none

def text? : FieldValue → Option String
  | .text value => some value
  | _ => none

def number? : FieldValue → Option Nat
  | .number value => some value
  | _ => none

end FieldValue

/-- A log line about the end of an item. -/
structure EndLine where
  level : Level
  durationMs : Nat
  telling : Telling
deriving DecidableEq, Repr

/-- A log line about the end of a call. -/
structure EnqueueLine where
  id : WorkId
  kind : String
  result : String
deriving DecidableEq, Repr

namespace LogRecord

def endLine? : LogRecord → Option EndLine
  | .line level message fields => do
    let outcome ← WorkOutcome.ofMessage? message
    let id ← (fields.lookup "work.id").bind FieldValue.id?
    let durationMs ← (fields.lookup "duration_ms").bind FieldValue.number?
    let text := ((fields.lookup "error").or (fields.lookup "panic")).bind FieldValue.text?
    some ⟨level, durationMs, ⟨id, outcome, text⟩⟩
  | _ => none

def enqueueLine? : LogRecord → Option EnqueueLine
  | .line .debug "enqueue" fields => do
    let id ← (fields.lookup "work.id").bind FieldValue.id?
    let kind ← (fields.lookup "work.kind").bind FieldValue.text?
    let result ← (fields.lookup "result").bind FieldValue.text?
    some ⟨id, kind, result⟩
  | _ => none

/-- How many items a warning says were discarded. -/
def discardLine? : LogRecord → Option Nat
  | .line .warn "discarded queued work at shutdown" fields =>
    (fields.lookup "count").bind FieldValue.number?
  | _ => none

/-- Whether a record is about the span of an execution. -/
def isExecutionSpan : LogRecord → Bool
  | .span name _ | .spanFields name _ => name == "work.execute"
  | .line .. => false

end LogRecord

namespace Report

def enqueued? : Report → Option (WorkKind × EnqueueResult)
  | .measure (.enqueued kind result) => some (kind, result)
  | _ => none

def executed? : Report → Option (WorkKind × WorkOutcome)
  | .measure (.executed kind outcome) => some (kind, outcome)
  | _ => none

def duration? : Report → Option (WorkKind × Nat)
  | .measure (.duration kind milliseconds) => some (kind, milliseconds)
  | _ => none

def span? : Report → Option LogRecord
  | .log record => if record.isExecutionSpan then some record else none
  | _ => none

def telling? : Report → Option Telling
  | .event kind => kind.telling?
  | _ => none

def endLine? : Report → Option EndLine
  | .log record => record.endLine?
  | _ => none

def enqueueLine? : Report → Option EnqueueLine
  | .log record => record.enqueueLine?
  | _ => none

def discardEvent? : Report → Option Nat
  | .event kind => kind.discardCount?
  | _ => none

def discardLine? : Report → Option Nat
  | .log record => record.discardLine?
  | _ => none

/-- Whether a report is about the end of a call. -/
def isEnqueueing (report : Report) : Bool := report.enqueued?.isSome || report.enqueueLine?.isSome

/-- Whether a report is about the execution of an item. -/
def isExecution (report : Report) : Bool :=
  report.executed?.isSome || report.duration?.isSome || report.span?.isSome ||
    report.telling?.isSome || report.endLine?.isSome

/-- Reports that a reading does not see add nothing to it. -/
theorem filterMap_append_of_unread {β : Type} {reading : Report → Option β} {more : List Report}
    (unread : ∀ report ∈ more, reading report = none) (reports : List Report) :
    (reports ++ more).filterMap reading = reports.filterMap reading := by
  rw [List.filterMap_append, List.filterMap_eq_nil_iff.mpr unread, List.append_nil]

end Report

/-! ## The reports of an execution -/

namespace Flight

variable (flight : Flight) (graceMs durationMs : Nat) (result : ExecutionResult)

@[simp]
theorem executed_startReports : flight.startReports.filterMap Report.executed? = [] := rfl

@[simp]
theorem durations_startReports : flight.startReports.filterMap Report.duration? = [] := rfl

@[simp]
theorem spans_startReports : flight.startReports.filterMap Report.span? =
    [.span "work.execute"
      [("work.id", .id flight.id), ("work.kind", .text flight.kind.text),
        ("work.dependency", .text (flight.dependency.getD "-"))]] := rfl

@[simp]
theorem tellings_startReports : flight.startReports.filterMap Report.telling? = [] := rfl

@[simp]
theorem endLines_startReports : flight.startReports.filterMap Report.endLine? = [] := rfl

@[simp]
theorem executed_reports : (flight.reports graceMs durationMs result).filterMap Report.executed? =
    [(flight.kind, result.outcome)] := by
  cases result <;> rfl

@[simp]
theorem durations_reports : (flight.reports graceMs durationMs result).filterMap Report.duration? =
    [(flight.kind, durationMs)] := by
  cases result <;> rfl

@[simp]
theorem spans_reports : (flight.reports graceMs durationMs result).filterMap Report.span? =
    [.spanFields "work.execute" [("work.outcome", .text result.outcome.text)]] := by
  cases result <;> rfl

@[simp]
theorem tellings_reports : (flight.reports graceMs durationMs result).filterMap Report.telling? =
    [result.tell flight.id] := by
  cases result <;> rfl

@[simp]
theorem endLines_reports : (flight.reports graceMs durationMs result).filterMap Report.endLine? =
    [⟨result.outcome.level, durationMs, result.tell flight.id⟩] := by
  cases result <;> rfl

/-- A flight is about an item. -/
structure Carries {β : Type} [Queued β] (item : β) : Prop where
  id : flight.id = Queued.id item
  kind : flight.kind = Queued.kind item
  dependency : flight.dependency = Queued.dependency item

end Flight

/-- An item that was started, with the result that was reported. -/
structure Entry (β : Type) where
  item : β
  verdict : Option ExecutionResult

namespace Entry

variable {β : Type} [Queued β]

def verdict? (entry : Entry β) : Option (β × ExecutionResult) :=
  entry.verdict.map (entry.item, ·)

/-- What the span of an item gets: its fields, and in the end its outcome. -/
def spans (entry : Entry β) : List LogRecord :=
  .span "work.execute"
      [("work.id", .id (Queued.id entry.item)), ("work.kind", .text (Queued.kind entry.item).text),
        ("work.dependency", .text ((Queued.dependency entry.item).getD "-"))] ::
    (entry.verdict.map fun result =>
      LogRecord.spanFields "work.execute" [("work.outcome", .text result.outcome.text)]).toList

end Entry

/-- All reports tell the same of the items that were started. -/
structure Agrees {β : Type} [Queued β] (entries : List (Entry β)) (reports : List Report) :
    Prop where
  executed : reports.filterMap Report.executed? =
    (entries.filterMap Entry.verdict?).map fun (item, result) => (Queued.kind item, result.outcome)
  timed : (reports.filterMap Report.duration?).map Prod.fst =
    (entries.filterMap Entry.verdict?).map fun (item, _) => Queued.kind item
  spans : reports.filterMap Report.span? = entries.flatMap Entry.spans
  events : reports.filterMap Report.telling? =
    (entries.filterMap Entry.verdict?).map fun (item, result) => result.tell (Queued.id item)
  lines : ((reports.filterMap Report.endLine?).map fun line => (line.level, line.telling)) =
    (entries.filterMap Entry.verdict?).map fun (item, result) =>
      (result.outcome.level, result.tell (Queued.id item))
  durations : (reports.filterMap Report.endLine?).map EndLine.durationMs =
    (reports.filterMap Report.duration?).map Prod.snd

namespace Agrees

variable {β : Type} [Queued β] {entries : List (Entry β)} {reports more : List Report}
  {flight : Flight} {item : β}

/-- Reports about something else change nothing. -/
theorem extend (agrees : Agrees entries reports) (apart : more.any Report.isExecution = false) :
    Agrees entries (reports ++ more) := by
  have unread : ∀ report ∈ more, report.executed? = none ∧ report.duration? = none ∧
      report.span? = none ∧ report.telling? = none ∧ report.endLine? = none := by
    simpa [Report.isExecution, and_assoc] using apart
  have durations : (reports ++ more).filterMap Report.duration? =
      reports.filterMap Report.duration? :=
    Report.filterMap_append_of_unread (fun report member => (unread report member).2.1) reports
  have lines : (reports ++ more).filterMap Report.endLine? = reports.filterMap Report.endLine? :=
    Report.filterMap_append_of_unread (fun report member => (unread report member).2.2.2.2) reports
  constructor
  · rw [Report.filterMap_append_of_unread fun report member => (unread report member).1]
    exact agrees.executed
  · rw [durations]
    exact agrees.timed
  · rw [Report.filterMap_append_of_unread fun report member => (unread report member).2.2.1]
    exact agrees.spans
  · rw [Report.filterMap_append_of_unread fun report member => (unread report member).2.2.2.1]
    exact agrees.events
  · rw [lines]
    exact agrees.lines
  · rw [lines, durations]
    exact agrees.durations

theorem start (agrees : Agrees entries reports) (carries : flight.Carries item) :
    Agrees (entries ++ [⟨item, none⟩]) (reports ++ flight.startReports) where
  executed := by simp [agrees.executed, Entry.verdict?]
  timed := by simp [agrees.timed, Entry.verdict?]
  spans := by
    simp [agrees.spans, Entry.spans, carries.id, carries.kind, carries.dependency]
  events := by simp [agrees.events, Entry.verdict?]
  lines := by simp [agrees.lines, Entry.verdict?]
  durations := by simp [agrees.durations]

theorem finish (agrees : Agrees (entries ++ [⟨item, none⟩]) reports)
    (carries : flight.Carries item) (graceMs durationMs : Nat) (result : ExecutionResult) :
    Agrees (entries ++ [⟨item, some result⟩])
      (reports ++ flight.reports graceMs durationMs result) where
  executed := by simp [agrees.executed, Entry.verdict?, carries.kind]
  timed := by simp [agrees.timed, Entry.verdict?, carries.kind]
  spans := by simp [agrees.spans, Entry.spans]
  events := by simp [agrees.events, Entry.verdict?, carries.id]
  lines := by simp [agrees.lines, Entry.verdict?, carries.id]
  durations := by simp [agrees.durations]

end Agrees

/-! ## The reports of a step of the worker -/

/-- Discarded items are warned of and told of, if there are any. -/
theorem Worker.discardReports_cases (count : Nat) :
    discardReports count = [] ∨
      discardReports count =
        [.line .warn "discarded queued work at shutdown" [("count", .number count)],
          .event (.workDiscarded count)] := by
  unfold discardReports
  split
  · exact .inl rfl
  · exact .inr rfl

namespace Advance

variable {β : Type} [Queued β] {view : Surroundings} {worker : Worker β} {channel : Channel β}
  {stride : Stride β}

/-- What a step reports about executions: the start of an item, the end of one, or nothing. -/
theorem reports_cases (advance : Advance view worker channel stride) :
    (∃ item, worker.phase = .launching item ∧ stride.command = some (.execute item) ∧
        stride.reports = (Flight.ofItem item view.now).startReports) ∨
      (∃ flight result, worker.phase = .reporting flight result ∧
        stride.reports = flight.reports view.graceMs (view.now - flight.startedAt) result) ∨
      ((∀ flight result, worker.phase ≠ .reporting flight result) ∧
        (∀ item, worker.phase ≠ .launching item) ∧
        stride.reports.any Report.isExecution = false) := by
  cases advance with
  | launch phase => exact .inl ⟨_, phase, rfl, rfl⟩
  | report phase => exact .inr (.inl ⟨_, _, phase, rfl⟩)
  | sum phase =>
    rename_i count
    refine .inr (.inr ⟨by simp [phase], by simp [phase], ?_⟩)
    rcases Worker.discardReports_cases count with nothing | counted
    · exact congrArg (List.any · _) nothing
    · exact congrArg (List.any · _) counted
  | begin phase | heed phase _ | take phase _ _ | desert phase _ _ | land phase _
  | interrupt phase _ _ | close phase | announce phase _ | resume phase _ | settle phase _
  | cut phase _ _ | yield phase _ | detach phase _ _ | again phase _ | quit phase _ | obey phase _
  | leave phase _ | shut phase | discard phase _ | exhaust phase _ | stop phase =>
    exact .inr (.inr ⟨by simp [phase], by simp [phase], rfl⟩)

/-- The worker reports on no call. -/
theorem enqueueings (advance : Advance view worker channel stride) :
    stride.reports.any Report.isEnqueueing = false := by
  cases advance with
  | report phase =>
    rename_i flight result
    cases result <;> rfl
  | sum phase =>
    rename_i count
    rcases Worker.discardReports_cases count with nothing | counted
    · exact congrArg (List.any · _) nothing
    · exact congrArg (List.any · _) counted
  | _ => rfl

/-- Discarded items come with an event and a warning, or with neither. -/
theorem discards (advance : Advance view worker channel stride) :
    stride.reports.filterMap Report.discardEvent? =
      stride.reports.filterMap Report.discardLine? := by
  cases advance with
  | report phase =>
    rename_i flight result
    cases result <;> rfl
  | sum phase =>
    rename_i count
    show (Worker.discardReports count).filterMap _ = (Worker.discardReports count).filterMap _
    rcases Worker.discardReports_cases count with nothing | counted
    · rw [nothing]
      rfl
    · rw [counted]
      rfl
  | _ => rfl

end Advance

end WorkHost
