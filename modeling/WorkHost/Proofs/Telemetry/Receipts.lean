import WorkHost.Proofs.Queue.Traffic
import WorkHost.Proofs.Telemetry.Readings
import WorkHost.Simulation.World

/-!
Contract: what is reported about calls.

Whoever calls reports once, when the call returns (`Enqueueing.reports`). What is reported with a
move of the callers is about the call that it lets return (`Traffic.step_receipt`), and the
label names what the call has returned (`EnqueueResult.Names`). The tasks of a simulated host
report in the same way (`World.reports_concludeOffer`).
-/

namespace WorkHost

/-- The label that names what a call for an item has returned. -/
inductive EnqueueResult.Names {β : Type} [Queued β] (item : β) :
    EnqueueResult → Except Failure WorkId → Prop where
  | ok : Names item .ok (.ok (Queued.id item))
  | full (capacity : Nat) : Names item .full (.error (.queueFull capacity))
  | cancelled : Names item .cancelled (.error .enqueueCancelled)
  | closed : Names item .closed (.error .queueClosed)

/-- What is reported once an attempt has been answered. -/
def Enqueueing.reports {β : Type} [Queued β] (progress : Enqueueing) (queue : TaskQueue β)
    (item : β) : List Report :=
  match progress with
  | .done result => queue.reports item result
  | .waiting => []

/-- The label of an attempt that has ended names its result. -/
def Enqueueing.Named {β : Type} [Queued β] (progress : Enqueueing) (item : β) : Prop :=
  ∀ result, progress = .done result → (TaskQueue.resultLabel result).Names item result

namespace TaskQueue

variable {β : Type} [Queued β] (queue : TaskQueue β) (ticket : Ticket) (item : β)

theorem conclude_named (sending : Sending) : (queue.conclude item sending).Named item := by
  intro result ended
  cases sending with
  | sent =>
    cases ended
    exact .ok
  | full =>
    cases ended
    exact .full queue.capacity
  | closed =>
    cases ended
    exact .closed
  | waiting => cases ended

theorem tryEnqueue_named : (queue.tryEnqueue item).1.Named item := queue.conclude_named item _

theorem enqueue_named : (queue.enqueue ticket item).1.Named item := by
  unfold enqueue
  split
  · exact queue.tryEnqueue_named item
  · exact queue.conclude_named item _

theorem cancelled_named : (Enqueueing.done (.error .enqueueCancelled)).Named item := by
  rintro result ⟨⟩
  exact .cancelled

theorem enqueueWithCancel_named (cancelled : Bool) :
    (queue.enqueueWithCancel ticket cancelled item).1.Named item := by
  unfold enqueueWithCancel
  split
  · exact queue.tryEnqueue_named item
  · split
    · exact cancelled_named item
    · exact queue.enqueue_named ticket item

theorem resumeWithCancel_named (cancelled : Bool) :
    (queue.resumeWithCancel ticket cancelled item).1.Named item := by
  unfold resumeWithCancel
  split
  · exact cancelled_named item
  · exact queue.conclude_named item _

/-! ## Readings -/

@[simp]
theorem enqueued_reports (result : Except Failure WorkId) :
    (queue.reports item result).filterMap Report.enqueued? =
      [(Queued.kind item, resultLabel result)] := rfl

@[simp]
theorem enqueueLines_reports (result : Except Failure WorkId) :
    (queue.reports item result).filterMap Report.enqueueLine? =
      [⟨Queued.id item, (Queued.kind item).text, (resultLabel result).text⟩] := rfl

theorem executions_reports (result : Except Failure WorkId) :
    (queue.reports item result).any Report.isExecution = false := rfl

theorem discardEvents_reports (result : Except Failure WorkId) :
    (queue.reports item result).filterMap Report.discardEvent? = [] := rfl

theorem discardLines_reports (result : Except Failure WorkId) :
    (queue.reports item result).filterMap Report.discardLine? = [] := rfl

end TaskQueue

namespace Traffic

variable {α : Type} [Queued α]

/-- What the callers report with a move. -/
def reports (traffic : Traffic α) : Move α → List Report
  | .call route item =>
    if traffic.queue.channel.handles = 0 then []
    else
      let call : Call α := ⟨traffic.callers.issued, item⟩
      let (progress, queue) := traffic.attempt route call
      progress.reports queue call
  | .look number =>
    (traffic.callers.find? number).elim [] fun waiter =>
      let (progress, _, queue) := traffic.queue.resumeWithCancel waiter.call.number
        (traffic.callers.isFired waiter.token) waiter.call
      progress.reports queue waiter.call
  | _ => []

theorem attempt_named (traffic : Traffic α) (route : Route) (call : Call α) :
    (traffic.attempt route call).1.Named call := by
  cases route with
  | waiting => exact traffic.queue.enqueue_named call.number call
  | cancellable token => exact traffic.queue.enqueueWithCancel_named call.number call _
  | immediate => exact traffic.queue.tryEnqueue_named call

/-- What a move lets a call return, and what is reported of it. -/
inductive Receipt (before after : Traffic α) : List Report → Prop where
  | nothing : after.callers.returned = before.callers.returned → Receipt before after []
  | returned {call : Call α} {result : Except Failure WorkId} :
    after.callers.returned = before.callers.returned ++ [(call, result)] →
      (TaskQueue.resultLabel result).Names call result →
        Receipt before after (after.queue.reports call result)

theorem enter_receipt {before : Traffic α} {waiter : Waiter α} {queue : TaskQueue (Call α)}
    {progress : Enqueueing} (named : progress.Named waiter.call) :
    Receipt before ⟨queue, before.callers.enter waiter progress⟩
      (progress.reports queue waiter.call) := by
  cases progress with
  | done result => exact .returned rfl (named result rfl)
  | waiting => exact .nothing rfl

theorem proceed_receipt {before : Traffic α} {waiter : Waiter α} {queue : TaskQueue (Call α)}
    {progress : Enqueueing} (named : progress.Named waiter.call) :
    Receipt before ⟨queue, before.callers.proceed waiter progress⟩
      (progress.reports queue waiter.call) := by
  cases progress with
  | done result => exact .returned rfl (named result rfl)
  | waiting => exact .nothing rfl

/-- Whatever the callers do, at most one call returns, and that is what is reported. -/
theorem step_receipt (traffic : Traffic α) (move : Move α) :
    Receipt traffic (traffic.step move) (traffic.reports move) := by
  cases move with
  | call route item =>
    simp only [step, reports]
    split
    · exact .nothing rfl
    · let waiter : Waiter α := ⟨⟨traffic.callers.issued, item⟩, route.token?⟩
      have named : (traffic.attempt route waiter.call).1.Named waiter.call :=
        traffic.attempt_named route waiter.call
      exact enter_receipt named
  | look number =>
    simp only [step, reports]
    cases traffic.callers.find? number with
    | none => exact .nothing rfl
    | some waiter => exact proceed_receipt (traffic.queue.resumeWithCancel_named _ _ _)
  | abandon number =>
    simp only [step, reports]
    cases traffic.callers.find? number with
    | none => exact .nothing rfl
    | some waiter => exact .nothing rfl
  | fire token => exact .nothing rfl
  | cloneHandle =>
    simp only [step, reports]
    split
    · exact .nothing rfl
    · exact .nothing rfl
  | dropHandle =>
    simp only [step, reports]
    split
    · exact .nothing rfl
    · exact .nothing rfl

end Traffic

/-! ## A host among other tasks -/

namespace World

theorem reports_emitReports (world : World) (reports : List Report) :
    (world.emitReports reports).reports.toList = world.reports.toList ++ reports := by
  induction reports generalizing world with
  | nil => exact (List.append_nil _).symm
  | cons report rest inductionHypothesis =>
    refine (inductionHypothesis (world.emitReport report)).trans ?_
    show (world.reports.push report).toList ++ rest = _
    rw [Array.toList_push, List.append_assoc]
    rfl

/-- Waking a task shows nothing and leaves the host alone. -/
theorem wake_silent (world : World) (ticket : Ticket) :
    (world.wake ticket).reports = world.reports ∧ (world.wake ticket).host = world.host := by
  unfold wake
  split
  · exact ⟨rfl, rfl⟩
  · exact ⟨rfl, rfl⟩

theorem wakeWorkerIf_silent (world : World) (condition : Bool) :
    (world.wakeWorkerIf condition).reports = world.reports ∧
      (world.wakeWorkerIf condition).host = world.host := by
  unfold wakeWorkerIf
  split
  · exact world.wake_silent workerTicket
  · exact ⟨rfl, rfl⟩

theorem dropHandle_silent (world : World) :
    world.dropHandle.reports = world.reports ∧
      world.dropHandle.host.queue.len = world.host.queue.len := by
  have silent := (world.setChannel world.host.queue.channel.dropHandle).wakeWorkerIf_silent
    (world.host.queue.channel.dropHandle.handles = 0 ∧ world.host.awaitsItem)
  exact ⟨silent.1, congrArg (fun host => host.queue.len) silent.2⟩

/-- A journal without reports adds none. -/
theorem keep_of_silent {world : World} {journal : Journal} (silent : journal.reports = []) :
    (world.keep journal).reports = world.reports ∧ (world.keep journal).host = world.host := by
  have noted : ∀ (lines : List String) (world : World),
      (lines.foldl note world).reports = world.reports ∧
        (lines.foldl note world).host = world.host := by
    intro lines
    induction lines with
    | nil => exact fun _ => ⟨rfl, rfl⟩
    | cons line rest inductionHypothesis => exact fun world => inductionHypothesis (world.note line)
  rw [keep, silent]
  exact noted journal.lines _

/-- A refused item is dropped without a report. -/
theorem dropWork_silent (world : World) (work : WorkItem) :
    (world.dropWork work).2.reports = world.reports ∧
      (world.dropWork work).2.host.queue.len = world.host.queue.len := by
  have silent : (work.item.drop world.journal).2.reports = [] := by
    unfold Item.drop
    cases work.item.keepsake <;> rfl
  obtain ⟨reports, host⟩ := keep_of_silent silent
  have length := congrArg (fun host => host.queue.len) host
  unfold dropWork releaseHandle
  dsimp only
  split
  · obtain ⟨same, held⟩ := (world.keep (work.item.drop world.journal).2).dropHandle_silent
    exact ⟨same.trans reports, held.trans length⟩
  · exact ⟨reports, length⟩

/-- What is reported once an offer has been answered. -/
def Offer.reports (offer : Offer) (queue : TaskQueue WorkItem) (work : WorkItem) : List Report :=
  match offer with
  | .done result => queue.reports work result
  | .waiting | .panicked _ => []

/-- A task reports on what it offers as other callers do: once, and when it gets an answer. -/
theorem reports_concludeOffer (world : World) (work : WorkItem) (progress : Enqueueing) :
    (world.concludeOffer work progress).2.reports.toList =
      world.reports.toList ++
        (world.concludeOffer work progress).1.reports world.host.queue work := by
  rcases progress with (failure | id) | _
  · unfold concludeOffer
    obtain ⟨silent, length⟩ := world.dropWork_silent work
    generalize world.dropWork work = dropped at silent length
    obtain ⟨_ | payload, after⟩ := dropped
    · have reports : after.host.queue.reports work (.error failure) =
          world.host.queue.reports work (.error failure) := by
        rw [TaskQueue.reports, TaskQueue.reports, length]
      show (after.emitReports _).reports.toList = _
      rw [reports_emitReports, silent, reports]
      rfl
    · show after.reports.toList = world.reports.toList ++ []
      rw [silent, List.append_nil]
  · unfold concludeOffer
    obtain ⟨silent, host⟩ := world.wakeWorkerIf_silent world.host.awaitsItem
    rw [reports_emitReports, silent, host]
    rfl
  · exact (List.append_nil _).symm

end World
end WorkHost
