import WorkHost.Command.Program
import WorkHost.Proofs.Event.Keeping
import WorkHost.Proofs.Host.Shift

/-!
Contract: what a demonstration has to tell, and what is printed of it.

The story goes through all items in order (`DemoOptions.story`). Of events that tell all of it
(`DemoOptions.Accounts`) a printer prints what is due: the events themselves, or how many items
were completed and how many have failed (`DemoOptions.Accounts.shown_eq`).
-/

namespace WorkHost

/-! ## The story -/

namespace DemoOptions

variable (options : DemoOptions) (identities : DemoIdentities)

/-- Odd items are unscoped, even ones ask for the context of a job. -/
def started (number : Nat) : EventKind :=
  if number % 2 = 0 then
    .workStarted (identities.item number) "scoped" (some "sampleapp_bg::JobContext")
  else .workStarted (identities.item number) "unscoped" none

def reason (number : Nat) : String :=
  "demo item " ++ toString number ++ " failed" ++
    if number % 2 = 0 then " in scope " ++ (identities.scope number).text else ""

/-- Every so many items one fails. -/
def verdict (number : Nat) : ExecutionResult :=
  if 0 < options.failEvery ∧ options.failEvery ∣ number then .failed (reason identities number)
  else .completed

def finished (number : Nat) : EventKind :=
  if 0 < options.failEvery ∧ options.failEvery ∣ number then
    .workFailed (identities.item number) (reason identities number) 0
  else .workCompleted (identities.item number) 0

def account (number : Nat) : List EventKind :=
  [started identities number, options.finished identities number]

/-- What is told when the first `count` items are done. -/
def opening (count : Nat) : List EventKind :=
  .workerStarted :: (List.range count).flatMap fun index => options.account identities (index + 1)

/-- All that is told, apart from the durations. -/
def story : List EventKind := options.opening identities options.items ++ [.workerStopped]

theorem opening_succ (count : Nat) :
    options.opening identities (count + 1) =
      options.opening identities count ++ [started identities (count + 1)] ++
        [options.finished identities (count + 1)] := by
  simp [opening, List.range_succ, account]

theorem length_opening (count : Nat) :
    (options.opening identities count).length = 2 * count + 1 := by
  induction count with
  | zero => rfl
  | succ count inductionHypothesis =>
    rw [opening_succ, List.length_append, List.length_append, inductionHypothesis]
    rfl

end DemoOptions

/-- The item with a number. -/
def DemoIdentities.demoItem (identities : DemoIdentities) (number : Nat) : DemoItem :=
  ⟨number, identities.item number⟩

theorem DemoOptions.fails_iff (options : DemoOptions) (number : Nat) :
    options.fails number = true ↔ 0 < options.failEvery ∧ options.failEvery ∣ number := by
  rw [fails, Bool.and_eq_true, decide_eq_true_eq, beq_iff_eq, Nat.dvd_iff_mod_eq_zero]

theorem DemoOptions.result_demoItem (options : DemoOptions) (identities : DemoIdentities)
    (number : Nat) :
    options.result identities (identities.demoItem number) =
      options.verdict identities number := by
  have due : options.fails (identities.demoItem number).number = true ↔
      0 < options.failEvery ∧ options.failEvery ∣ number := options.fails_iff number
  have even : (identities.demoItem number).isScoped = true ↔ number % 2 = 0 := beq_iff_eq
  rw [result, verdict]
  by_cases fails : options.fails (identities.demoItem number).number = true
  · rw [if_pos fails, if_pos (due.mp fails), reason]
    dsimp only
    by_cases isEven : number % 2 = 0
    · rw [if_pos (even.mpr isEven), if_pos isEven, String.append_assoc]
      rfl
    · rw [if_neg (mt even.mp isEven), if_neg isEven, String.append_empty]
      rfl
  · exact (if_neg fails).trans (if_neg (mt due.mpr fails)).symm

theorem Flight.started_ofItem (identities : DemoIdentities) (number now : Nat) :
    (Report.events (Flight.ofItem (identities.demoItem number) now).startReports).map
        EventKind.timeless = [DemoOptions.started identities number] := by
  rw [Flight.events_startReports, DemoOptions.started]
  by_cases even : number % 2 = 0
  · simp [Flight.ofItem, Queued.id, Queued.kind, Queued.dependency, DemoItem.isScoped, even,
      EventKind.timeless, WorkKind.text, DemoItem.contextName, DemoIdentities.demoItem]
  · simp [Flight.ofItem, Queued.id, Queued.kind, Queued.dependency, DemoItem.isScoped, even,
      EventKind.timeless, WorkKind.text, DemoIdentities.demoItem]

theorem Flight.ended_ofItem (options : DemoOptions) (identities : DemoIdentities)
    (number startedAt graceMs durationMs : Nat) :
    (Report.events ((Flight.ofItem (identities.demoItem number) startedAt).reports graceMs
        durationMs (options.result identities (identities.demoItem number)))).map
        EventKind.timeless = [options.finished identities number] := by
  rw [Flight.events_reports, DemoOptions.result_demoItem, DemoOptions.verdict,
    DemoOptions.finished]
  split <;> rfl

/-! ## What the bus has been told -/

namespace EventBus

/-- What was emitted, without numbers, times and durations. -/
def told (bus : EventBus) : List EventKind := bus.kinds.map EventKind.timeless

/-- Events carry the numbers from 1 on, and as many are kept as from the start. -/
structure Sound (slots : Nat) (bus : EventBus) : Prop where
  slots : bus.slots = slots
  numbered : Attendance.NumberedFromOne bus

theorem length_told (bus : EventBus) : bus.told.length = bus.seq := by
  rw [told, List.length_map, length_kinds]

theorem Sound.emit {slots : Nat} {bus : EventBus} (sound : bus.Sound slots)
    (timestamp : Calendar.Instant) (kind : EventKind) : (bus.emit timestamp kind).Sound slots where
  slots := sound.slots
  numbered := by
    intro index event found
    have pushed : (bus.emitted.push ⟨bus.seq + 1, timestamp, kind⟩)[index]? = some event := found
    rw [Array.getElem?_push] at pushed
    split at pushed
    · rename_i last
      rw [← Option.some.inj pushed, last]
      rfl
    · exact sound.numbered index event pushed

theorem Sound.report {slots : Nat} {bus : EventBus} (sound : bus.Sound slots)
    (clock : Calendar.Instant) (now : Nat) (reports : List Report) :
    (reports.foldl (DemoRun.emit clock now) bus).Sound slots ∧
      (reports.foldl (DemoRun.emit clock now) bus).told =
        bus.told ++ (Report.events reports).map EventKind.timeless := by
  induction reports generalizing bus with
  | nil => exact ⟨sound, (List.append_nil _).symm⟩
  | cons report rest inductionHypothesis =>
    cases report with
    | event kind =>
      obtain ⟨keeps, tells⟩ := inductionHypothesis (sound.emit (clock.plusMilliseconds now) kind)
      refine ⟨keeps, tells.trans ?_⟩
      simp [told, Report.events, Report.event?]
    | log | measure => exact inductionHypothesis sound

end EventBus

/-! ## What is to come of it -/

namespace DemoOptions

variable (options : DemoOptions) (identities : DemoIdentities)

/-- The items in order, and how they end. -/
def executions : List (DemoItem × ExecutionResult) :=
  (List.range' 1 options.items).map fun number =>
    (identities.demoItem number, options.verdict identities number)

/-- Events that tell the whole story, with the numbers from 1 on. -/
structure Accounts (events : List Event) : Prop where
  kinds : (events.map fun event => event.kind.timeless) = options.story identities
  numbers : events.map Event.seq = List.range' 1 (2 * options.items + 2)

/-- What is to be printed: the events, or how many items were completed and how many failed. -/
def due (events : List Event) : List OutputLine :=
  if options.json then events.map .event
  else
    [.text ("completed: " ++ toString (options.items - options.items / options.failEvery) ++
      ", failed: " ++ toString (options.items / options.failEvery))]

end DemoOptions

namespace DemoTally

def count (tally : DemoTally) : EventKind → DemoTally
  | .workCompleted .. => { tally with completed := tally.completed + 1 }
  | .workFailed .. | .workPanicked .. => { tally with failed := tally.failed + 1 }
  | _ => tally

theorem add_eq_count (tally : DemoTally) (event : Event) :
    tally.add event = tally.count event.kind.timeless := by
  obtain ⟨seq, timestamp, kind⟩ := event
  cases kind <;> rfl

theorem foldl_add (tally : DemoTally) (events : List Event) :
    events.foldl add tally = (events.map fun event => event.kind.timeless).foldl count tally := by
  rw [List.foldl_map]
  exact congrArg (fun step => events.foldl step tally) (funext₂ add_eq_count)

end DemoTally

namespace DemoOptions

variable {options : DemoOptions} {identities : DemoIdentities} {events : List Event}

theorem count_started (identities : DemoIdentities) (tally : DemoTally) (number : Nat) :
    tally.count (started identities number) = tally := by
  unfold started
  split <;> rfl

/-- Of the first items, every so many one has failed. -/
theorem tally_opening (options : DemoOptions) (identities : DemoIdentities) (count : Nat) :
    (options.opening identities count).foldl DemoTally.count ⟨0, 0⟩ =
      ⟨count - count / options.failEvery, count / options.failEvery⟩ := by
  induction count with
  | zero => simp [opening, DemoTally.count]
  | succ count inductionHypothesis =>
    have fewer : count / options.failEvery ≤ count := Nat.div_le_self _ _
    rw [opening_succ, List.foldl_append, List.foldl_append, inductionHypothesis]
    simp only [List.foldl_cons, List.foldl_nil, count_started]
    rw [finished, Nat.succ_div]
    by_cases due : options.failEvery ∣ count + 1
    · have positive : 0 < options.failEvery := Nat.pos_of_dvd_of_pos due (Nat.succ_pos count)
      rw [if_pos ⟨positive, due⟩, if_pos due, Nat.add_sub_add_right]
      rfl
    · rw [if_neg fun both => due both.2, if_neg due, Nat.add_zero (count / options.failEvery),
        Nat.sub_add_comm fewer]
      rfl

theorem Accounts.shown_eq (accounts : options.Accounts identities events) :
    options.shown events = options.due events := by
  rw [shown, due, DemoTally.foldl_add, accounts.kinds, story, List.foldl_append, tally_opening]
  rfl

theorem stopped_not_mem_opening (options : DemoOptions) (identities : DemoIdentities)
    (count : Nat) : EventKind.workerStopped ∉ options.opening identities count := by
  induction count with
  | zero => simp [opening]
  | succ count inductionHypothesis =>
    rw [opening_succ, List.mem_append, List.mem_append, List.mem_singleton, List.mem_singleton]
    rintro ((earlier | isStarted) | isFinished)
    · exact inductionHypothesis earlier
    · unfold started at isStarted
      split at isStarted <;> cases isStarted
    · unfold finished at isFinished
      split at isFinished <;> cases isFinished

end DemoOptions

/-- A printer that is told of the end of the worker last has heard it all. -/
theorem printedEvents_map {events : List Event}
    (last : ∀ event ∈ events.dropLast, event.kind ≠ .workerStopped) :
    printedEvents (events.map .event) = events := by
  induction events with
  | nil => rfl
  | cons event rest inductionHypothesis =>
    rw [List.map_cons, printedEvents]
    cases rest with
    | nil => exact ite_self _
    | cons next rest =>
      rw [List.dropLast_cons_cons] at last
      rw [if_neg (last event List.mem_cons_self),
        inductionHypothesis fun later member => last later (List.mem_cons_of_mem _ member)]

theorem DemoOptions.Accounts.printedEvents_eq {options : DemoOptions} {identities : DemoIdentities}
    {events : List Event} (accounts : options.Accounts identities events) :
    printedEvents (events.map .event) = events := by
  refine printedEvents_map fun event member isLast => ?_
  refine options.stopped_not_mem_opening identities options.items ?_
  have told : (events.dropLast.map fun event => event.kind.timeless) =
      options.opening identities options.items := by
    rw [List.map_dropLast, accounts.kinds, story, List.dropLast_concat]
  rw [← told]
  exact List.mem_map.mpr ⟨event, member, congrArg EventKind.timeless isLast⟩

end WorkHost
