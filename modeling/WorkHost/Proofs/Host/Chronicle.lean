import WorkHost.Proofs.Host.Events

/-!
Contract: the order in which the events of a run may come.

`Chronicle` is the language of complete runs, and `Reliable` is what it promises to an
observer. `Transcript` says how events are added one at a time, from one `Stage` to
another; what it builds is in the language (`Transcript.word`), and whatever it has
built can be completed (`Transcript.completes`).
-/

namespace WorkHost

/-! ## The language -/

/-- The item that an event says has ended by itself. -/
def EventKind.endedId? : EventKind → Option WorkId
  | .workCompleted id _ | .workFailed id _ _ | .workPanicked id _ => some id
  | _ => none

/-- Items one after the other, each with the event of its end. -/
inductive Rounds : List EventKind → Prop where
  | nil : Rounds []
  | snoc {events : List EventKind} {start ending : EventKind} {id : WorkId} :
    Rounds events → start.startedId? = some id → ending.endedId? = some id →
      Rounds (events ++ [start, ending])

/-- The event about discarded items, if there are any. -/
inductive Discards : List EventKind → Prop where
  | nothing : Discards []
  | counted {count : Nat} : 0 < count → Discards [.workDiscarded count]

/-- What comes between the last item that ended undisturbed and the end of the run. -/
inductive Farewell : ShutdownOutcome → List EventKind → Prop where
  | deserted : Farewell .graceful []
  | idle {discards : List EventKind} :
    Discards discards → Farewell .graceful (.drainStarted :: discards)
  | finished {start ending : EventKind} {id : WorkId} {discards : List EventKind} :
    start.startedId? = some id → ending.endedId? = some id → Discards discards →
      Farewell .graceful (start :: .drainStarted :: ending :: discards)
  | forced {start : EventKind} {id : WorkId} {discards : List EventKind} :
    start.startedId? = some id → Discards discards →
      Farewell .forced (start :: .drainStarted :: .forcedStop id :: discards)

/-- The events of a run from its start to its end. -/
inductive Chronicle (outcome : ShutdownOutcome) : List EventKind → Prop where
  | intro {rounds farewell : List EventKind} :
    Rounds rounds → Farewell outcome farewell →
      Chronicle outcome (.workerStarted :: (rounds ++ farewell ++ [.workerStopped]))

/-! ## What the language promises -/

namespace EventKind

/-- The item that an event says has ended, by itself or by an abort. -/
def closedId? : EventKind → Option WorkId
  | .workCompleted id _ | .workFailed id _ _ | .workPanicked id _ | .forcedStop id => some id
  | _ => none

/-- Whether an event is about one item. -/
def isItem : EventKind → Bool
  | .workStarted .. | .workCompleted .. | .workFailed .. | .workPanicked .. | .forcedStop _ => true
  | _ => false

def isForced : EventKind → Bool
  | .forcedStop _ => true
  | _ => false

/-- Whether an event is about an abort or about discarded items. -/
def isLoss : EventKind → Bool
  | .forcedStop _ | .workDiscarded _ => true
  | _ => false

end EventKind

/-- Starts of items, each closed by one event with the same identifier. -/
inductive Paired : List EventKind → Prop where
  | nil : Paired []
  | cons {start ending : EventKind} {id : WorkId} {events : List EventKind} :
    start.startedId? = some id → ending.closedId? = some id → Paired events →
      Paired (start :: ending :: events)

theorem Paired.append {first second : List EventKind} (before : Paired first)
    (after : Paired second) : Paired (first ++ second) := by
  induction before with
  | nil => exact after
  | cons starts ends _ inductionHypothesis => exact .cons starts ends inductionHypothesis

/-- What an observer may rely on. -/
structure Reliable (outcome : ShutdownOutcome) (events : List EventKind) : Prop where
  drains : events.count .drainStarted ≤ 1
  forces : events.countP EventKind.isForced ≤ 1
  losses : (∃ event ∈ events, event.isLoss = true) → .drainStarted ∈ events
  ordered : events.Pairwise fun earlier later => earlier.isLoss = true → later ≠ .drainStarted
  paired : Paired (events.filter EventKind.isItem)
  outcome : outcome = .forced ↔ ∃ id, .forcedStop id ∈ events

/-- Events that say nothing about the end of a run. -/
def Undisturbed (events : List EventKind) : Prop :=
  ∀ event ∈ events, event ≠ .drainStarted ∧ event.isLoss = false

namespace Undisturbed

variable {events : List EventKind}

theorem count_drainStarted (calm : Undisturbed events) : events.count .drainStarted = 0 :=
  List.count_eq_zero.mpr fun member => (calm _ member).1 rfl

theorem forcedStop_not_mem (calm : Undisturbed events) (id : WorkId) :
    .forcedStop id ∉ events := by
  intro member
  have lossless := (calm _ member).2
  cases lossless

theorem countP_isForced (calm : Undisturbed events) : events.countP EventKind.isForced = 0 := by
  rw [List.countP_eq_zero]
  intro event member forced
  cases event with
  | forcedStop id => exact calm.forcedStop_not_mem id member
  | _ => cases forced

theorem pairwise (calm : Undisturbed events) :
    events.Pairwise fun earlier later => earlier.isLoss = true → later ≠ .drainStarted :=
  List.pairwise_of_forall_mem_list fun _ _ later member _ => (calm later member).1

end Undisturbed

/-- Undisturbed items before and after change nothing. -/
theorem Reliable.surround {outcome : ShutdownOutcome} {first events last : List EventKind}
    (reliable : Reliable outcome events) (firstCalm : Undisturbed first)
    (lastCalm : Undisturbed last) (firstPaired : Paired (first.filter EventKind.isItem))
    (lastPaired : Paired (last.filter EventKind.isItem)) :
    Reliable outcome (first ++ events ++ last) where
  drains := by
    simpa [firstCalm.count_drainStarted, lastCalm.count_drainStarted] using reliable.drains
  forces := by
    simpa [firstCalm.countP_isForced, lastCalm.countP_isForced] using reliable.forces
  losses := by
    rintro ⟨event, member, lost⟩
    simp only [List.mem_append] at member ⊢
    rcases member with (before | inside) | after
    · exact absurd lost (by simp [(firstCalm event before).2])
    · exact Or.inl (Or.inr (reliable.losses ⟨event, inside, lost⟩))
    · exact absurd lost (by simp [(lastCalm event after).2])
  ordered := by
    rw [List.pairwise_append, List.pairwise_append]
    refine ⟨⟨firstCalm.pairwise, reliable.ordered, ?_⟩, lastCalm.pairwise, ?_⟩
    · intro earlier before later _ lost
      exact absurd lost (by simp [(firstCalm earlier before).2])
    · exact fun earlier _ later after _ => (lastCalm later after).1
  paired := by
    simpa only [List.filter_append] using (firstPaired.append reliable.paired).append lastPaired
  outcome := by
    rw [reliable.outcome]
    simp only [List.mem_append, firstCalm.forcedStop_not_mem, lastCalm.forcedStop_not_mem,
      false_or, or_false]

namespace Rounds

variable {rounds : List EventKind}

theorem paired (wellFormed : Rounds rounds) : Paired (rounds.filter EventKind.isItem) := by
  induction wellFormed with
  | nil => exact .nil
  | @snoc events start ending id _ starts ends inductionHypothesis =>
    rw [List.filter_append]
    apply inductionHypothesis.append
    cases start with
    | workStarted _ _ _ =>
      cases ending with
      | workCompleted _ _ | workFailed _ _ _ | workPanicked _ _ => exact .cons starts ends .nil
      | _ => cases ends
    | _ => cases starts

theorem undisturbed (wellFormed : Rounds rounds) : Undisturbed rounds := by
  induction wellFormed with
  | nil => intro event member; cases member
  | @snoc events start ending id _ starts ends inductionHypothesis =>
    intro event member
    simp only [List.mem_append, List.mem_cons, List.not_mem_nil, or_false] at member
    rcases member with old | rfl | rfl
    · exact inductionHypothesis event old
    · cases event with
      | workStarted _ _ _ => exact ⟨by simp, rfl⟩
      | _ => cases starts
    · cases event with
      | workCompleted _ _ | workFailed _ _ _ | workPanicked _ _ => exact ⟨by simp, rfl⟩
      | _ => cases ends

end Rounds

theorem Farewell.reliable {outcome : ShutdownOutcome} {farewell : List EventKind}
    (wellFormed : Farewell outcome farewell) : Reliable outcome farewell := by
  cases wellFormed with
  | deserted => constructor <;> simp [Paired.nil]
  | idle discards =>
    cases discards <;> refine ⟨?_, ?_, ?_, ?_, .nil, ?_⟩ <;>
      simp [EventKind.isForced, EventKind.isLoss]
  | @finished start ending id _ starts ends discards =>
    cases start with
    | workStarted _ _ _ =>
      cases ending with
      | workCompleted _ _ | workFailed _ _ _ | workPanicked _ _ =>
        cases discards <;> refine ⟨?_, ?_, ?_, ?_, .cons starts ends .nil, ?_⟩ <;>
          simp [EventKind.isForced, EventKind.isLoss]
      | _ => cases ends
    | _ => cases starts
  | forced starts discards =>
    rename_i start id _
    cases start with
    | workStarted _ _ _ =>
      cases discards <;> refine ⟨?_, ?_, ?_, ?_, .cons starts rfl .nil, ?_⟩ <;>
        simp [EventKind.isForced, EventKind.isLoss, List.countP_cons]
    | _ => cases starts

theorem Chronicle.reliable {outcome : ShutdownOutcome} {events : List EventKind}
    (chronicle : Chronicle outcome events) : Reliable outcome events := by
  cases chronicle with
  | @intro rounds farewell wellFormed ends =>
    have first : Undisturbed (.workerStarted :: rounds) := by
      intro event member
      rcases List.mem_cons.mp member with rfl | round
      · exact ⟨by simp, rfl⟩
      · exact wellFormed.undisturbed event round
    have last : Undisturbed [.workerStopped] := by
      intro event member
      rw [List.mem_singleton.mp member]
      exact ⟨by simp, rfl⟩
    exact ends.reliable.surround first last wellFormed.paired .nil

/-! ## Building a word -/

/-- How far a run has come. -/
inductive Stage where
  | silent
  | resting
  | busy (id : WorkId)
  | draining (id : WorkId)
  | drained (outcome : ShutdownOutcome)
  | summed (outcome : ShutdownOutcome)
  | stopped (outcome : ShutdownOutcome)
deriving DecidableEq, Repr

inductive Transcript : Stage → List EventKind → Prop where
  | silent : Transcript .silent []
  | wake {events : List EventKind} :
    Transcript .silent events → Transcript .resting (events ++ [.workerStarted])
  | start {events : List EventKind} {event : EventKind} {id : WorkId} :
    Transcript .resting events → event.startedId? = some id →
      Transcript (.busy id) (events ++ [event])
  | finish {events : List EventKind} {event : EventKind} {id : WorkId} :
    Transcript (.busy id) events → event.endedId? = some id →
      Transcript .resting (events ++ [event])
  | drainIdle {events : List EventKind} :
    Transcript .resting events → Transcript (.drained .graceful) (events ++ [.drainStarted])
  | drain {events : List EventKind} {id : WorkId} :
    Transcript (.busy id) events → Transcript (.draining id) (events ++ [.drainStarted])
  | settle {events : List EventKind} {event : EventKind} {id : WorkId} :
    Transcript (.draining id) events → event.endedId? = some id →
      Transcript (.drained .graceful) (events ++ [event])
  | force {events : List EventKind} {id : WorkId} :
    Transcript (.draining id) events → Transcript (.drained .forced) (events ++ [.forcedStop id])
  | leave {events : List EventKind} :
    Transcript .resting events → Transcript (.summed .graceful) events
  | pass {events : List EventKind} {outcome : ShutdownOutcome} :
    Transcript (.drained outcome) events → Transcript (.summed outcome) events
  | discard {events : List EventKind} {outcome : ShutdownOutcome} {count : Nat} :
    Transcript (.drained outcome) events → 0 < count →
      Transcript (.summed outcome) (events ++ [.workDiscarded count])
  | stop {events : List EventKind} {outcome : ShutdownOutcome} :
    Transcript (.summed outcome) events →
      Transcript (.stopped outcome) (events ++ [.workerStopped])

/-- The events that a run has emitted at a stage. -/
def Stage.Word : Stage → List EventKind → Prop
  | .silent, events => events = []
  | .resting, events => ∃ rounds, Rounds rounds ∧ events = .workerStarted :: rounds
  | .busy id, events =>
    ∃ rounds start, Rounds rounds ∧ start.startedId? = some id ∧
      events = .workerStarted :: (rounds ++ [start])
  | .draining id, events =>
    ∃ rounds start, Rounds rounds ∧ start.startedId? = some id ∧
      events = .workerStarted :: (rounds ++ [start, .drainStarted])
  | .drained outcome, events =>
    ∃ rounds farewell, Rounds rounds ∧
      (∀ discards, Discards discards → Farewell outcome (farewell ++ discards)) ∧
      events = .workerStarted :: (rounds ++ farewell)
  | .summed outcome, events =>
    ∃ rounds farewell, Rounds rounds ∧ Farewell outcome farewell ∧
      events = .workerStarted :: (rounds ++ farewell)
  | .stopped outcome, events => Chronicle outcome events

namespace Transcript

theorem word {stage : Stage} {events : List EventKind} (transcript : Transcript stage events) :
    stage.Word events := by
  induction transcript with
  | silent => rfl
  | wake _ inductionHypothesis =>
    rw [inductionHypothesis]
    exact ⟨[], .nil, rfl⟩
  | start _ starts inductionHypothesis =>
    obtain ⟨rounds, wellFormed, rfl⟩ := inductionHypothesis
    exact ⟨rounds, _, wellFormed, starts, rfl⟩
  | finish _ ends inductionHypothesis =>
    obtain ⟨rounds, start, wellFormed, starts, rfl⟩ := inductionHypothesis
    refine ⟨rounds ++ [start, _], .snoc wellFormed starts ends, ?_⟩
    rw [List.cons_append, List.append_assoc]
    rfl
  | drainIdle _ inductionHypothesis =>
    obtain ⟨rounds, wellFormed, rfl⟩ := inductionHypothesis
    exact ⟨rounds, [.drainStarted], wellFormed, fun _ => .idle, rfl⟩
  | drain _ inductionHypothesis =>
    obtain ⟨rounds, start, wellFormed, starts, rfl⟩ := inductionHypothesis
    refine ⟨rounds, start, wellFormed, starts, ?_⟩
    rw [List.cons_append, List.append_assoc]
    rfl
  | settle _ ends inductionHypothesis =>
    obtain ⟨rounds, start, wellFormed, starts, rfl⟩ := inductionHypothesis
    refine ⟨rounds, [start, .drainStarted, _], wellFormed, fun _ => .finished starts ends, ?_⟩
    rw [List.cons_append, List.append_assoc]
    rfl
  | force _ inductionHypothesis =>
    obtain ⟨rounds, start, wellFormed, starts, rfl⟩ := inductionHypothesis
    refine ⟨rounds, [start, .drainStarted, _], wellFormed, fun _ => .forced starts, ?_⟩
    rw [List.cons_append, List.append_assoc]
    rfl
  | leave _ inductionHypothesis =>
    obtain ⟨rounds, wellFormed, rfl⟩ := inductionHypothesis
    exact ⟨rounds, [], wellFormed, .deserted, by rw [List.append_nil]⟩
  | pass _ inductionHypothesis =>
    obtain ⟨rounds, farewell, wellFormed, farewells, rfl⟩ := inductionHypothesis
    exact ⟨rounds, farewell, wellFormed, List.append_nil farewell ▸ farewells [] .nothing, rfl⟩
  | discard _ positive inductionHypothesis =>
    obtain ⟨rounds, farewell, wellFormed, farewells, rfl⟩ := inductionHypothesis
    refine ⟨rounds, _, wellFormed, farewells _ (.counted positive), ?_⟩
    rw [List.cons_append, List.append_assoc]
  | stop _ inductionHypothesis =>
    obtain ⟨rounds, farewell, wellFormed, farewells, rfl⟩ := inductionHypothesis
    exact .intro wellFormed farewells

theorem completes_of_summed {outcome : ShutdownOutcome} {events : List EventKind}
    (transcript : Transcript (.summed outcome) events) :
    ∃ outcome rest, Chronicle outcome (events ++ rest) :=
  ⟨outcome, [.workerStopped], transcript.stop.word⟩

theorem completes_of_append {events : List EventKind} {event : EventKind}
    (completes : ∃ outcome rest, Chronicle outcome (events ++ [event] ++ rest)) :
    ∃ outcome rest, Chronicle outcome (events ++ rest) := by
  obtain ⟨outcome, rest, chronicle⟩ := completes
  rw [List.append_assoc] at chronicle
  exact ⟨outcome, _, chronicle⟩

/-- Whatever has been emitted so far, there is a complete run that starts with it. -/
theorem completes {stage : Stage} {events : List EventKind} (transcript : Transcript stage events) :
    ∃ outcome rest, Chronicle outcome (events ++ rest) := by
  cases stage with
  | silent => exact completes_of_append (completes_of_summed transcript.wake.leave)
  | resting => exact completes_of_summed transcript.leave
  | busy id =>
    have ended : (EventKind.workCompleted id 0).endedId? = some id := rfl
    exact completes_of_append (completes_of_summed (transcript.finish ended).leave)
  | draining id => exact completes_of_append (completes_of_summed transcript.force.pass)
  | drained outcome => exact completes_of_summed transcript.pass
  | summed outcome => exact completes_of_summed transcript
  | stopped outcome => exact ⟨outcome, [], (List.append_nil events).symm ▸ transcript.word⟩

end Transcript

end WorkHost
