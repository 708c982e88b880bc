import Mathlib.Algebra.GroupWithZero.Nat
import WorkHost.Proofs.Host.Conservation
import WorkHost.Proofs.Host.Custody
import WorkHost.Proofs.Telemetry.Receipts

/-!
Contract: metrics, log lines, spans and events tell the same story.

A dossier is an interplay with all reports in the order in which they are made, those of the
callers and those of the worker. Whatever happens in which order, the reports go with what the
calls have returned and with the items that were started (`Dossier.Coherent`).
-/

namespace WorkHost

/-! ## Sums of counters -/

def WorkKind.all : List WorkKind := [.unscoped, .scoped]

def WorkOutcome.all : List WorkOutcome := [.ok, .error, .panic, .aborted]

theorem WorkKind.sum_count_ok (enqueued : List (WorkKind × EnqueueResult)) :
    (all.map fun kind => enqueued.count (kind, .ok)).sum =
      enqueued.countP fun labels => labels.2 == .ok := by
  induction enqueued with
  | nil => rfl
  | cons labels rest inductionHypothesis =>
    obtain ⟨kind, result⟩ := labels
    simp only [all, List.map_cons, List.map_nil, List.sum_cons, List.sum_nil]
      at inductionHypothesis ⊢
    cases kind <;> cases result <;> simp <;> omega

/-- Counted under each of its labels, everything is counted once. -/
theorem WorkKind.sum_count (executed : List (WorkKind × WorkOutcome)) :
    (all.map fun kind => (WorkOutcome.all.map fun outcome =>
        executed.count (kind, outcome)).sum).sum = executed.length := by
  induction executed with
  | nil => rfl
  | cons labels rest inductionHypothesis =>
    obtain ⟨kind, outcome⟩ := labels
    simp only [all, WorkOutcome.all, List.map_cons, List.map_nil, List.sum_cons, List.sum_nil]
      at inductionHypothesis ⊢
    cases kind <;> cases outcome <;> simp <;> omega

theorem Report.discardCounts_events (reports : List Report) :
    (Report.events reports).filterMap EventKind.discardCount? =
      reports.filterMap Report.discardEvent? := by
  rw [Report.events, List.filterMap_filterMap]
  refine List.filterMap_congr fun report _ => ?_
  cases report <;> rfl

/-! ## The items that were started -/

/-- The item that the worker has started and not yet reported on. -/
def Phase.flight? {β : Type} : Phase β → Option Flight
  | .executing flight | .draining flight _ | .aborting flight _ | .reporting flight _ => some flight
  | .closing flight | .announcing flight => flight
  | _ => none

/-- The items that were started, with the results that were reported. -/
def Lives.entries {α : Type} (lives : Lives α) : List (Entry (Call α)) :=
  lives.toList.map fun life => ⟨life.call, life.verdict⟩

theorem Lives.entries_update {α : Type} (lives : Lives α) {change : Life α → Life α}
    (keeps : ∀ life, (change life).call = life.call ∧ (change life).verdict = life.verdict) :
    (lives.update change).entries = lives.entries := by
  unfold entries update toList
  cases lives.current <;> simp [keeps]

theorem Lives.entries_judge {α : Type} {lives : Lives α} {life : Life α}
    (current : lives.current = some life) (unjudged : life.verdict = none)
    (result : ExecutionResult) :
    ∃ before, lives.entries = before ++ [⟨life.call, none⟩] ∧
      (lives.update fun life => { life with verdict := some result }).entries =
        before ++ [⟨life.call, some result⟩] := by
  refine ⟨lives.past.map fun life => ⟨life.call, life.verdict⟩, ?_, ?_⟩
  · simp [entries, toList, current, unjudged]
  · simp [entries, toList, update, current]

/-- The item in flight after a step was in flight before, or has just been started. -/
theorem Advance.flying {β : Type} [Queued β] {view : Surroundings} {worker : Worker β}
    {channel : Channel β} {stride : Stride β} (advance : Advance view worker channel stride)
    {flight : Flight} (flying : stride.worker.phase.flight? = some flight) :
    (∃ item, worker.phase = .launching item ∧ flight = .ofItem item view.now) ∨
      worker.phase.flight? = some flight := by
  cases advance with
  | launch phase => exact .inl ⟨_, phase, (Option.some.inj flying).symm⟩
  | announce phase isNew | resume phase before =>
    rename_i known
    refine .inr ?_
    rw [phase]
    cases known with
    | none => cases flying
    | some known => exact flying
  | land phase _ | interrupt phase _ _ | close phase | settle phase _ | cut phase _ _
  | yield phase _ | detach phase _ _ =>
    refine .inr ?_
    rw [phase]
    exact flying
  | _ => cases flying

namespace Interplay

variable {α : Type} [Queued α]

/-- The worker knows what it has started last. -/
def Carried (state : Interplay α) : Prop :=
  ∀ flight, state.host.worker.phase.flight? = some flight →
    ∃ call, state.record.lives.current.map Life.call = some call ∧ flight.Carries call

/-- What a step does to the entries, and what it reports of executions. -/
theorem advance_entries {state : Interplay α} {stride : Stride (Call α)}
    (advance : Advance state.view state.host.worker state.channel stride) :
    (∃ call, state.host.worker.phase = .launching call ∧
        (state.advance stride).record.lives.current = some (.begin call) ∧
        (state.advance stride).record.lives.entries =
          state.record.lives.entries ++ [⟨call, none⟩] ∧
        stride.reports = (Flight.ofItem call state.now).startReports) ∨
      (∃ flight result, state.host.worker.phase = .reporting flight result ∧
        (state.advance stride).record.lives =
          state.record.lives.update (fun life => { life with verdict := some result }) ∧
        stride.reports = flight.reports state.host.graceMs (state.now - flight.startedAt) result) ∨
      ((∀ call, state.host.worker.phase ≠ .launching call) ∧
        (state.advance stride).record.lives.current.map Life.call =
          state.record.lives.current.map Life.call ∧
        (state.advance stride).record.lives.entries = state.record.lives.entries ∧
        stride.reports.any Report.isExecution = false) := by
  rcases advance.reports_cases with ⟨call, phase, command, reports⟩ |
    ⟨flight, result, phase, reports⟩ | ⟨notReporting, notLaunching, silent⟩
  · refine .inl ⟨call, phase, ?_, ?_, reports⟩
    · show ((state.record.lives.judge _).obey _ stride.command).current = _
      rw [command]
      rfl
    · show ((state.record.lives.judge _).obey _ stride.command).entries = _
      rw [command, phase]
      simp [Lives.judge, Lives.obey, Lives.entries, Lives.toList, Life.begin]
  · rcases advance_lives advance with ⟨_, other, _⟩ | ⟨_, _, other, _⟩ | ⟨_, _, same, lives⟩ |
      ⟨other, _⟩
    · cases other.symm.trans phase
    · cases other.symm.trans phase
    · obtain ⟨rfl, rfl⟩ := Phase.reporting.inj (phase.symm.trans same)
      exact .inr (.inl ⟨flight, result, phase, lives, reports⟩)
    · exact absurd phase (other flight result)
  · refine .inr (.inr ⟨notLaunching, ?_⟩)
    rcases advance_lives advance with ⟨call, other, _⟩ | ⟨_, _, _, _, _, lives⟩ |
      ⟨flight, result, other, _⟩ | ⟨_, lives⟩
    · exact absurd other (notLaunching call)
    · rw [lives]
      refine ⟨?_, Lives.entries_update _ fun _ => ⟨rfl, rfl⟩, silent⟩
      rw [Lives.update, Option.map_map]
      rfl
    · exact absurd other (notReporting flight result)
    · rw [lives]
      exact ⟨rfl, rfl, silent⟩

theorem carried_invariant : Invariant (Carried : Interplay α → Prop) where
  traffic _ _ _ carried := carried
  stop _ _ carried := carried
  conclude state result _ carried := by
    unfold conclude
    split
    · intro flight flying
      obtain ⟨call, current, carries⟩ := carried flight flying
      refine ⟨call, ?_, carries⟩
      rw [← current, Lives.update, Option.map_map]
      rfl
    · exact carried
  elapse _ _ _ carried := carried
  advance state stride _ advance carried flight flying := by
    rcases advance_entries advance with ⟨call, phase, current, _⟩ |
      ⟨_, _, phase, lives, _⟩ | ⟨notLaunching, same, _⟩
    · refine ⟨call, congrArg (Option.map Life.call) current, ?_⟩
      rcases advance.flying flying with ⟨item, launching, rfl⟩ | before
      · obtain rfl := Phase.launching.inj (launching.symm.trans phase)
        exact ⟨rfl, rfl, rfl⟩
      · rw [phase] at before
        cases before
    · rcases advance.flying flying with ⟨item, launching, rfl⟩ | before
      · cases launching.symm.trans phase
      · obtain ⟨call, current, carries⟩ := carried flight before
        refine ⟨call, ?_, carries⟩
        rw [lives, ← current, Lives.update, Option.map_map]
        rfl
    · rcases advance.flying flying with ⟨item, launching, rfl⟩ | before
      · exact absurd launching (notLaunching item)
      · obtain ⟨call, current, carries⟩ := carried flight before
        exact ⟨call, same.trans current, carries⟩
  collapse _ _ _ _ _ carried flight flying := by cases flying

theorem Reached.carried {state : Interplay α} (reached : state.Reached) : state.Carried :=
  carried_invariant.reached (fun _ _ flying => by cases flying) reached

end Interplay

/-! ## Dossiers -/

/-- An interplay with all that was reported, by the callers and by the worker. -/
structure Dossier (α : Type) where
  interplay : Interplay α
  reports : List Report
deriving Repr

namespace Dossier

variable {α : Type}

def create (config : QueueConfig) : Dossier α := ⟨.create config, []⟩

variable [Queued α]

/-- What is reported with a move. -/
def added (interplay : Interplay α) : Interplay.Move α → List Report
  | .traffic move => interplay.traffic.reports move
  | .work _ => (interplay.host.step interplay.now).elim [] HostStride.reports
  | _ => []

def step (dossier : Dossier α) (move : Interplay.Move α) : Dossier α :=
  ⟨dossier.interplay.step move, dossier.reports ++ added dossier.interplay move⟩

def run (dossier : Dossier α) (moves : List (Interplay.Move α)) : Dossier α :=
  moves.foldl step dossier

/-- Keeping a dossier influences nothing. -/
theorem interplay_run (dossier : Dossier α) (moves : List (Interplay.Move α)) :
    (dossier.run moves).interplay = dossier.interplay.run moves := by
  induction moves generalizing dossier with
  | nil => rfl
  | cons move rest inductionHypothesis => exact inductionHypothesis (dossier.step move)

/-- What was reported goes with what the calls have returned and with the items started. -/
structure Recorded (dossier : Dossier α) : Prop where
  /-- Every label names what its call has returned. -/
  named : ∀ entry ∈ dossier.interplay.callers.returned,
    (TaskQueue.resultLabel entry.2).Names entry.1 entry.2
  /-- Every call that has returned is measured once, and logged once. -/
  enqueued : dossier.reports.filterMap Report.enqueued? =
    dossier.interplay.callers.returned.map fun entry =>
      (Queued.kind entry.1, TaskQueue.resultLabel entry.2)
  enqueueLines : dossier.reports.filterMap Report.enqueueLine? =
    dossier.interplay.callers.returned.map fun entry =>
      ⟨Queued.id entry.1, (Queued.kind entry.1).text, (TaskQueue.resultLabel entry.2).text⟩
  executions : Agrees dossier.interplay.record.lives.entries dossier.reports
  /-- Discarded items are told of and warned of with the same count. -/
  discards : dossier.reports.filterMap Report.discardEvent? =
    dossier.reports.filterMap Report.discardLine?

/-- What every move keeps. -/
structure Kept (dossier : Dossier α) : Prop extends dossier.Recorded where
  reached : dossier.interplay.Reached
  counts : dossier.reports.filterMap Report.discardEvent? =
    dossier.interplay.record.events.filterMap EventKind.discardCount?

theorem create_kept (config : QueueConfig) : (create config : Dossier α).Kept where
  reached := Interplay.reached_create config
  named _ member := by cases member
  enqueued := rfl
  enqueueLines := rfl
  executions := ⟨rfl, rfl, rfl, rfl, rfl, rfl⟩
  discards := rfl
  counts := rfl

variable {dossier : Dossier α}

/-! ## What every move keeps -/

/-- A move with which nobody reports. -/
theorem Kept.silent (kept : dossier.Kept) {move : Interplay.Move α}
    (silent : added dossier.interplay move = [])
    (returned : (dossier.interplay.step move).callers.returned =
      dossier.interplay.callers.returned)
    (entries : (dossier.interplay.step move).record.lives.entries =
      dossier.interplay.record.lives.entries)
    (reports : (dossier.interplay.step move).record.reports =
      dossier.interplay.record.reports) :
    (dossier.step move).Kept := by
  have same : (dossier.step move).reports = dossier.reports := by
    rw [step, silent, List.append_nil]
  obtain ⟨⟨named, enqueued, enqueueLines, executions, discards⟩, reached, counts⟩ := kept
  refine ⟨⟨?_, ?_, ?_, ?_, ?_⟩, reached.step move, ?_⟩
  · rw [step, returned]
    exact named
  · rw [same, step, returned]
    exact enqueued
  · rw [same, step, returned]
    exact enqueueLines
  · rw [same, step, entries]
    exact executions
  · rw [same]
    exact discards
  · rw [same, step, Record.events, reports]
    exact counts

theorem Kept.traffic (kept : dossier.Kept) (move : Traffic.Move α) :
    (dossier.step (.traffic move)).Kept := by
  have receipt := dossier.interplay.traffic.step_receipt move
  generalize isAdded : dossier.interplay.traffic.reports move = added at receipt
  cases receipt with
  | nothing returned => exact kept.silent isAdded returned rfl rfl
  | @returned call result returned named =>
    have reached := kept.reached.step (.traffic move)
    have now : (dossier.step (.traffic move)).interplay.callers.returned =
        dossier.interplay.callers.returned ++ [(call, result)] := returned
    have reports : (dossier.step (.traffic move)).reports = dossier.reports ++
        (dossier.interplay.traffic.step move).queue.reports call result := by
      rw [← isAdded]
      rfl
    generalize (dossier.interplay.traffic.step move).queue = queue at reports
    refine ⟨⟨?_, ?_, ?_, ?_, ?_⟩, reached, ?_⟩
    · rw [now]
      intro entry member
      rcases List.mem_append.mp member with old | new
      · exact kept.named entry old
      · rw [List.mem_singleton.mp new]
        exact named
    · rw [now, reports, List.filterMap_append, kept.enqueued, TaskQueue.enqueued_reports,
        List.map_append]
      rfl
    · rw [now, reports, List.filterMap_append, kept.enqueueLines, TaskQueue.enqueueLines_reports,
        List.map_append]
      rfl
    · rw [reports]
      exact kept.executions.extend (queue.executions_reports call result)
    · rw [reports, List.filterMap_append, List.filterMap_append, kept.discards,
        TaskQueue.discardEvents_reports, TaskQueue.discardLines_reports]
    · rw [reports, List.filterMap_append, TaskQueue.discardEvents_reports, List.append_nil]
      exact kept.counts

/-- The reports of a step go with what the step does to the items that were started. -/
theorem Kept.agrees_advance (kept : dossier.Kept) {stride : Stride (Call α)}
    (advance : Advance dossier.interplay.view dossier.interplay.host.worker
      dossier.interplay.channel stride) :
    Agrees (dossier.interplay.advance stride).record.lives.entries
      (dossier.reports ++ stride.reports) := by
  rcases Interplay.advance_entries advance with ⟨call, _, _, entries, reports⟩ |
    ⟨flight, result, phase, lives, reports⟩ | ⟨_, _, entries, silent⟩
  · rw [entries, reports]
    exact kept.executions.start ⟨rfl, rfl, rfl⟩
  · obtain ⟨call, isCurrent, carries⟩ := kept.reached.carried flight (by rw [phase]; rfl)
    have custody := kept.reached.tended.custody
    rw [phase] at custody
    obtain ⟨life, current, _, unjudged⟩ := custody
    rw [current] at isCurrent
    obtain rfl := Option.some.inj isCurrent
    obtain ⟨before, was, becomes⟩ := Lives.entries_judge current unjudged result
    have agrees := kept.executions
    rw [was] at agrees
    rw [lives, becomes, reports]
    exact agrees.finish carries _ _ result
  · rw [entries]
    exact kept.executions.extend silent

theorem Kept.work (kept : dossier.Kept) (mishap : Option String) :
    (dossier.step (.work mishap)).Kept := by
  cases stepped : dossier.interplay.host.worker.step dossier.interplay.view
    dossier.interplay.channel with
  | none =>
    have idle : dossier.interplay.host.step dossier.interplay.now = none := by
      rw [Interplay.host_step, stepped]
      rfl
    have same : dossier.interplay.step (.work mishap) = dossier.interplay := by
      rw [Interplay.step, Interplay.work, idle]
    refine kept.silent ?_ ?_ ?_ ?_
    · rw [added, idle]
      rfl
    · rw [same]
    · rw [same]
    · rw [same]
  | some stride =>
    have advance := Worker.step_advance stepped
    have reached := kept.reached.step (.work mishap)
    have reports : (dossier.step (.work mishap)).reports =
        dossier.reports ++ stride.reports := by
      rw [step, added, Interplay.host_step, stepped]
      rfl
    -- What the destructor of a discarded item does concerns neither callers nor items started.
    obtain ⟨returned, lives, events⟩ :
        (dossier.interplay.work mishap).callers = dossier.interplay.callers ∧
          (dossier.interplay.work mishap).record.lives =
            (dossier.interplay.advance stride).record.lives ∧
          (dossier.interplay.work mishap).record.events =
            (dossier.interplay.advance stride).record.events := by
      rcases dossier.interplay.work_of_step stepped mishap with same | ⟨call, message, _, same⟩
      · rw [same]
        exact ⟨rfl, rfl, rfl⟩
      · rw [same]
        exact ⟨rfl, rfl, rfl⟩
    have apart : ∀ report ∈ stride.reports,
        report.enqueued? = none ∧ report.enqueueLine? = none := by
      simpa [Report.isEnqueueing] using advance.enqueueings
    refine ⟨⟨?_, ?_, ?_, ?_, ?_⟩, reached, ?_⟩
    · show ∀ entry ∈ (dossier.interplay.work mishap).callers.returned, _
      rw [returned]
      exact kept.named
    · show _ = (dossier.interplay.work mishap).callers.returned.map _
      rw [reports, returned,
        Report.filterMap_append_of_unread fun report member => (apart report member).1]
      exact kept.enqueued
    · show _ = (dossier.interplay.work mishap).callers.returned.map _
      rw [reports, returned,
        Report.filterMap_append_of_unread fun report member => (apart report member).2]
      exact kept.enqueueLines
    · show Agrees (dossier.interplay.work mishap).record.lives.entries _
      rw [reports, lives]
      exact kept.agrees_advance advance
    · rw [reports, List.filterMap_append, List.filterMap_append, kept.discards, advance.discards]
    · show _ = (dossier.interplay.work mishap).record.events.filterMap _
      rw [reports, events, Interplay.advance_events, List.filterMap_append, List.filterMap_append,
        kept.counts, Report.discardCounts_events]

theorem step_kept (kept : dossier.Kept) (move : Interplay.Move α) :
    (dossier.step move).Kept := by
  cases move with
  | traffic move => exact kept.traffic move
  | work mishap => exact kept.work mishap
  | stop => exact kept.silent rfl rfl rfl rfl
  | elapse milliseconds => exact kept.silent rfl rfl rfl rfl
  | conclude result =>
    refine kept.silent rfl ?_ ?_ ?_
    · rw [Interplay.step, Interplay.conclude]
      split <;> rfl
    · rw [Interplay.step, Interplay.conclude]
      split
      · exact Lives.entries_update _ fun _ => ⟨rfl, rfl⟩
      · rfl
    · rw [Interplay.step, Interplay.conclude]
      split <;> rfl

theorem run_kept (config : QueueConfig) (moves : List (Interplay.Move α)) :
    ((create config).run moves).Kept := by
  suffices keeps : ∀ dossier : Dossier α, dossier.Kept → (dossier.run moves).Kept from
    keeps _ (create_kept config)
  induction moves with
  | nil => exact fun _ kept => kept
  | cons move rest inductionHypothesis =>
    exact fun dossier kept => inductionHypothesis _ (step_kept kept move)

/-! ## The story -/

/-- The story that is told, at any time and in the end. -/
structure Coherent (dossier : Dossier α) : Prop extends dossier.Recorded where
  /-- Every item that was started has been reported on, unless it is in flight. -/
  settled : dossier.interplay.host.worker.phase.flight? = none →
    ∀ entry ∈ dossier.interplay.record.lives.entries, entry.verdict.isSome = true
  /-- What was accepted was executed or discarded, by the sums of the counters. -/
  balanced : dossier.interplay.host.worker.state = .stopped →
    (WorkKind.all.map fun kind =>
        (dossier.reports.filterMap Report.enqueued?).count (kind, .ok)).sum =
      (WorkKind.all.map fun kind =>
        (WorkOutcome.all.map fun outcome =>
          (dossier.reports.filterMap Report.executed?).count (kind, outcome)).sum).sum +
      (dossier.reports.filterMap Report.discardEvent?).sum

theorem Kept.settled (kept : dossier.Kept)
    (landed : dossier.interplay.host.worker.phase.flight? = none) :
    ∀ entry ∈ dossier.interplay.record.lives.entries, entry.verdict.isSome = true := by
  have tended := kept.reached.tended
  have current : ∀ life ∈ dossier.interplay.record.lives.current, life.verdict.isSome = true := by
    have custody := tended.custody
    cases phase : dossier.interplay.host.worker.phase with
    | executing _ | draining _ _ | aborting _ _ | reporting _ _ =>
      rw [phase] at landed
      cases landed
    | closing flight | announcing flight =>
      rw [phase] at landed custody
      cases landed
      exact custody
    | _ =>
      rw [phase] at custody
      exact custody
  intro entry member
  obtain ⟨life, isLife, rfl⟩ := List.mem_map.mp member
  exact Lives.forall_toList tended.past current life isLife

theorem Kept.balanced (kept : dossier.Kept)
    (stopped : dossier.interplay.host.worker.state = .stopped) :
    (WorkKind.all.map fun kind =>
        (dossier.reports.filterMap Report.enqueued?).count (kind, .ok)).sum =
      (WorkKind.all.map fun kind =>
        (WorkOutcome.all.map fun outcome =>
          (dossier.reports.filterMap Report.executed?).count (kind, outcome)).sum).sum +
      (dossier.reports.filterMap Report.discardEvent?).sum := by
  have sound := kept.reached.sound
  have conserved := kept.reached.conserved
  have landed : dossier.interplay.host.worker.phase.flight? = none := by
    rw [sound.lifecycle.ended_of_stopped stopped]
    rfl
  have accepted : ((dossier.reports.filterMap Report.enqueued?).countP fun labels =>
      labels.2 == .ok) = dossier.interplay.callers.accepted.length := by
    rw [kept.enqueued, List.countP_map, Callers.length_accepted]
    congr 1
    funext ⟨call, result⟩
    rcases result with (_ | _) | _ <;> rfl
  have executed : (dossier.reports.filterMap Report.executed?).length =
      dossier.interplay.record.started.length := by
    have settled : ∀ entry ∈ dossier.interplay.record.lives.entries,
        entry.verdict?.isSome = true := by
      intro entry member
      rw [Entry.verdict?, Option.isSome_map]
      exact kept.settled landed entry member
    rw [kept.executions.executed, List.length_map, List.filterMap_length_eq_length.mpr settled,
      Record.started, Lives.entries, List.length_map, List.length_map]
  have discarded : (dossier.reports.filterMap Report.discardEvent?).sum =
      dossier.interplay.record.discarded.length := by
    rw [kept.counts, conserved.discardEvents_of_stopped sound stopped]
    split
    · rename_i nothing
      rw [nothing]
      rfl
    · exact List.sum_singleton
  rw [WorkKind.sum_count_ok, WorkKind.sum_count, accepted, executed, discarded,
    conserved.accepted_of_stopped sound stopped, List.length_append]

/-- Metrics, log lines, spans and events tell the same story of every run. -/
theorem tells_one_story (config : QueueConfig) (moves : List (Interplay.Move α)) :
    let dossier : Dossier α := (create config).run moves
    dossier.interplay = (Interplay.create config).run moves ∧ dossier.Coherent := by
  intro dossier
  have kept : dossier.Kept := run_kept config moves
  exact ⟨interplay_run (create config) moves, kept.toRecorded, kept.settled, kept.balanced⟩

/-- One item is executed, one is discarded, and one is refused. -/
example :
    let enqueue : Interplay.Move WorkItem :=
      .traffic (.call .immediate ⟨⟨List.replicate 32 0, rfl⟩, default, default⟩)
    let work : Interplay.Move WorkItem := .work none
    let dossier := (create ⟨1, .reject, 100⟩).run
      ([work, enqueue, work, enqueue, enqueue, work, .stop, .conclude (.failed "late")] ++
        List.replicate 11 work)
    dossier.interplay.host.worker.state = .stopped ∧
      dossier.reports.filterMap Report.enqueued? =
        [(.unscoped, .ok), (.unscoped, .ok), (.unscoped, .full)] ∧
      dossier.reports.filterMap Report.executed? = [(.unscoped, .error)] ∧
      dossier.reports.filterMap Report.discardEvent? = [1] := by
  decide +kernel

end Dossier

end WorkHost
