import WorkHost.Proofs.Host.Chronicle
import WorkHost.Proofs.Host.Custody
import WorkHost.Work.Item

/-!
Contract: the worker emits its events in order.

The stage of a worker says which events may come next. Every step of the worker follows
it (`Advance.transcript`), so that the events of a run are always the beginning of a
word of the language, and at the end a word of it.
-/

namespace WorkHost

/-- How far the events of a worker have come. -/
def Worker.stage {β : Type} (worker : Worker β) : Stage :=
  match worker.phase with
  | .starting => .silent
  | .dequeuing | .launching _ => .resting
  | .executing flight | .closing (some flight) | .announcing (some flight) => .busy flight.id
  | .draining flight _ | .aborting flight _ => .draining flight.id
  | .reporting flight _ =>
    if worker.state = .running then .busy flight.id else .draining flight.id
  | .finishing => .summed worker.outcome
  | .ended => .stopped worker.outcome
  | _ => if worker.state = .running then .resting else .drained worker.outcome

/-- No item was aborted before draining, or while the last item is in flight. -/
def Worker.Unforced {β : Type} (worker : Worker β) : Prop :=
  worker.state = .running ∨ worker.phase.inFlight = true → worker.outcome = .graceful

theorem Flight.endedId?_endEvent (flight : Flight) (durationMs : Nat) {result : ExecutionResult}
    (own : result ≠ .aborted) : (flight.endEvent durationMs result).endedId? = some flight.id := by
  cases result with
  | aborted => exact absurd rfl own
  | _ => rfl

namespace Advance

variable {β : Type} {view : Surroundings} {worker : Worker β} {channel : Channel β}
  {stride : Stride β} {events : List EventKind}

theorem report_transcript {flight : Flight} {result : ExecutionResult} (durationMs : Nat)
    (unforced : worker.Unforced)
    (phase : worker.phase = .reporting flight result)
    (heeded : result = .aborted → worker.state ≠ .running)
    (transcript : Transcript worker.stage events) :
    Transcript
      ({ worker with
          phase := .reported
          outcome := if result = .aborted then .forced else worker.outcome } : Worker β).stage
      (events ++ [flight.endEvent durationMs result]) := by
  by_cases running : worker.state = .running
  · have own : result ≠ .aborted := fun aborted => heeded aborted running
    simp only [Worker.stage, phase, running, if_true] at transcript ⊢
    exact transcript.finish (flight.endedId?_endEvent durationMs own)
  · simp only [Worker.stage, phase, running, if_false] at transcript ⊢
    by_cases aborted : result = .aborted
    · rw [aborted]
      exact transcript.force
    · rw [if_neg aborted, unforced (Or.inr (by rw [phase]; rfl))]
      exact transcript.settle (flight.endedId?_endEvent durationMs aborted)

theorem sum_transcript {count : Nat}
    (unforced : worker.Unforced)
    (lifecycle : Lifecycle worker channel view.stopping) (phase : worker.phase = .summing count)
    (transcript : Transcript worker.stage events) :
    Transcript (.summed worker.outcome)
      (events ++ Report.events (Worker.discardReports count)) := by
  simp only [Lifecycle, phase] at lifecycle
  rcases lifecycle.2.2 with ⟨running, nothing⟩ | ⟨draining, _⟩
  · simp only [Worker.stage, phase, running, if_true] at transcript
    rw [nothing, unforced (Or.inl running)]
    exact (List.append_nil events).symm ▸ transcript.leave
  · simp only [Worker.stage, phase, draining, reduceCtorEq, if_false] at transcript
    rw [Worker.events_discardReports]
    by_cases nothing : count = 0
    · rw [if_pos nothing, List.append_nil]
      exact transcript.pass
    · rw [if_neg nothing]
      exact transcript.discard (Nat.pos_of_ne_zero nothing)

theorem transcript [Queued β] (lifecycle : Lifecycle worker channel view.stopping)
    (unforced : worker.Unforced)
    (heeded : ∀ flight, worker.phase = .reporting flight .aborted → worker.state ≠ .running)
    (advance : Advance view worker channel stride) (transcript : Transcript worker.stage events) :
    Transcript stride.worker.stage (events ++ Report.events stride.reports) := by
  cases advance with
  | begin phase =>
    simp only [Worker.stage, phase] at transcript
    exact transcript.wake
  | report phase =>
    rw [Flight.events_reports]
    exact report_transcript _ unforced phase (fun aborted => heeded _ (aborted ▸ phase)) transcript
  | launch phase =>
    simp only [Worker.stage, phase] at transcript
    exact transcript.start rfl
  | announce phase isNew =>
    rename_i flight
    rw [WorkerState.canTransition_draining_iff] at isNew
    cases flight with
    | some flight =>
      simp only [Worker.stage, phase] at transcript
      exact transcript.drain
    | none =>
      simp only [Worker.stage, phase, isNew, if_true] at transcript
      simp only [Worker.stage, Phase.afterAnnouncing, unforced (Or.inl isNew)]
      exact transcript.drainIdle
  | sum phase =>
    have summed := sum_transcript unforced lifecycle phase transcript
    exact summed
  | stop phase =>
    simp only [Worker.stage, phase] at transcript
    exact transcript.stop
  | resume phase before =>
    have draining := lifecycle.draining_of_resume phase before
    rename_i flight
    cases flight with
    | some flight =>
      simp only [Lifecycle, phase] at lifecycle
      simp [draining] at lifecycle
    | none =>
      simp only [Worker.stage, phase] at transcript
      show Transcript _ (events ++ [])
      rw [List.append_nil]
      exact transcript
  | close phase =>
    rename_i flight
    simp only [Worker.stage, phase] at transcript
    show Transcript _ (events ++ [])
    rw [List.append_nil]
    cases flight <;> exact transcript
  | quit phase _ | obey phase _ | shut phase | leave phase _ | exhaust phase _
  | discard phase _ | take phase _ _ | interrupt phase _ _ | cut phase _ _ =>
    simp only [Worker.stage, phase] at transcript
    show Transcript _ (events ++ [])
    rw [List.append_nil]
    exact transcript
  | _ =>
    simp_all [Worker.stage, Stride.plain, Lifecycle, WorkerState.Intact, WorkerState.Drained]

theorem unforced [Queued β] (lifecycle : Lifecycle worker channel view.stopping)
    (unforced : worker.Unforced)
    (heeded : ∀ flight, worker.phase = .reporting flight .aborted → worker.state ≠ .running)
    (advance : Advance view worker channel stride) : stride.worker.Unforced := by
  cases advance with
  | report phase =>
    rename_i flight result
    rintro (running | inFlight)
    · have own : result ≠ .aborted := fun aborted => heeded flight (aborted ▸ phase) running
      show (if _ then _ else _) = _
      rw [if_neg own]
      exact unforced (Or.inl running)
    · cases inFlight
  | launch phase =>
    simp only [Lifecycle, phase] at lifecycle
    exact fun _ => unforced (Or.inl lifecycle.1)
  | announce phase isNew | resume phase before =>
    rename_i flight
    cases flight <;>
      simp_all [Worker.Unforced, Stride.plain, Phase.inFlight, Phase.afterAnnouncing]
  | _ => simp_all [Worker.Unforced, Stride.plain, Phase.inFlight]

end Advance

namespace Interplay

variable {α : Type} [Queued α]

theorem Reached.heeded {state : Interplay α} (reached : state.Reached) (flight : Flight)
    (phase : state.host.worker.phase = .reporting flight .aborted) :
    state.host.worker.state ≠ .running := by
  intro running
  have custody := reached.tended.custody
  rw [phase] at custody
  obtain ⟨life, current, deserves, _⟩ := custody
  have course := reached.announced.course
  rw [running] at course
  have member : life ∈ state.record.lives.toList :=
    List.mem_append_right _ (Option.mem_toList.mpr current)
  exact course.draining_not_mem (reached.draining_of_aborted member deserves)

/-- The events go with the stage of the worker. -/
structure Scripted (state : Interplay α) : Prop where
  transcript : Transcript state.host.worker.stage state.record.events
  unforced : state.host.worker.Unforced

theorem scripted_invariant : Invariant (Scripted : Interplay α → Prop) where
  traffic _ _ _ scripted := ⟨scripted.transcript, scripted.unforced⟩
  stop _ _ scripted := ⟨scripted.transcript, scripted.unforced⟩
  conclude state result _ scripted := by
    unfold conclude
    split
    · exact ⟨scripted.transcript, scripted.unforced⟩
    · exact scripted
  elapse _ _ _ scripted := ⟨scripted.transcript, scripted.unforced⟩
  advance state stride reached advance scripted := by
    refine ⟨?_, advance.unforced reached.sound.lifecycle scripted.unforced reached.heeded⟩
    rw [advance_events]
    exact advance.transcript reached.sound.lifecycle scripted.unforced reached.heeded
      scripted.transcript
  collapse state count message _ phase scripted := by
    obtain ⟨transcript, unforced⟩ := scripted
    simp only [Worker.stage, phase] at transcript
    refine ⟨transcript, ?_⟩
    rintro (running | inFlight)
    · exact unforced (Or.inl running)
    · cases inFlight

theorem Reached.scripted {state : Interplay α} (reached : state.Reached) : state.Scripted :=
  scripted_invariant.reached (fun _ => ⟨.silent, fun _ => rfl⟩) reached

/-- The events of a run are the beginning of a word of the language, also if the worker
never comes to its end. At the end they are a word, with the outcome of the run. -/
theorem events_follow_protocol (config : QueueConfig) (moves : List (Move α)) :
    let reached := (create config).run moves
    let outcome := reached.host.worker.outcome
    (∃ outcome rest, Chronicle outcome (reached.record.events ++ rest)) ∧
      (reached.host.worker.phase = .ended →
        Chronicle outcome reached.record.events ∧ Reliable outcome reached.record.events) := by
  intro reached outcome
  have transcript := (reached_run config moves).scripted.transcript
  refine ⟨transcript.completes, fun ended => ?_⟩
  have chronicle : Chronicle outcome reached.record.events := by
    have word := transcript.word
    simp only [Worker.stage] at word
    rw [ended] at word
    exact word
  exact ⟨chronicle, chronicle.reliable⟩

-- The item in flight overruns the grace period while another one is buffered.
example :
    let id : WorkId := ⟨List.replicate 32 0, rfl⟩
    let enqueue : Move WorkItem := .traffic (.call .immediate ⟨id, default, default⟩)
    let work : Move WorkItem := .work none
    let reached := (create ⟨1, .reject, 100⟩).run
      [work, enqueue, work, work, enqueue, .stop, work, work, work, .elapse 100, work,
        .conclude .aborted, work, work, work, work, work, work, work, work, work, work, work]
    reached.record.events =
      [.workerStarted, .workStarted id "unscoped" none, .drainStarted, .forcedStop id,
        .workDiscarded 1, .workerStopped] := by
  decide +kernel

end Interplay

end WorkHost
