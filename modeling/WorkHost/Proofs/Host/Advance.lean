import WorkHost.Host.Basic
import WorkHost.Proofs.Queue.Effect

/-!
Contract: all that one step of the worker can do.

`Advance` has one rule for every way in which a step can go, with what the step looked
at; `Worker.step_advance` says that there are no others. What a step does to the
worker's state, to the queue or to the reports is read off the rules and never off
`Worker.step` itself. `Advance.buffer` says that items leave the buffer one at a time,
and only into the worker's hands.
-/

namespace WorkHost

variable {α : Type}

/-- Where the worker goes when draining has begun. -/
def Phase.afterAnnouncing (view : Surroundings) : Option Flight → Phase α
  | some flight => .draining flight (view.now + view.graceMs)
  | none => .sealing

/-- A stride that leaves the queue and the worker's state as they are. -/
def Stride.plain (worker : Worker α) (channel : Channel α) (phase : Phase α)
    (reports : List Report) (command : Option (Command α)) : Stride α :=
  ⟨{ worker with phase }, channel, reports, command, []⟩

/-- The items that a stride has taken out of the buffer. -/
def Stride.received (stride : Stride α) : List α :=
  match stride.worker.phase, stride.command with
  | .launching item, _ => [item]
  | _, some (.discard item) => [item]
  | _, _ => []

inductive Advance [Queued α] (view : Surroundings) (worker : Worker α) (channel : Channel α) :
    Stride α → Prop where
  | begin (phase : worker.phase = .starting) :
    Advance view worker channel
      (.plain worker channel .dequeuing (Worker.startedReports view.graceMs) none)
  | heed (phase : worker.phase = .dequeuing) (stopping : view.stopping = true) :
    Advance view worker channel (.plain worker channel .leaving [] none)
  | take {item : α} {woken : Option Ticket} {next : Channel α}
    (phase : worker.phase = .dequeuing) (calm : view.stopping = false)
    (received : channel.receive = (.item item, woken, next)) :
    Advance view worker channel
      ⟨{ worker with phase := .launching item }, next, [], none, woken.toList⟩
  | desert {woken : Option Ticket} {next : Channel α}
    (phase : worker.phase = .dequeuing) (calm : view.stopping = false)
    (received : channel.receive = (.ended, woken, next)) :
    Advance view worker channel (.plain worker channel .leaving [] none)
  | launch {item : α} (phase : worker.phase = .launching item) :
    Advance view worker channel
      (.plain worker channel (.executing (Flight.ofItem item view.now))
        (Flight.ofItem item view.now).startReports (some (.execute item)))
  | land {flight : Flight} {result : ExecutionResult}
    (phase : worker.phase = .executing flight) (ended : view.ended = some result) :
    Advance view worker channel (.plain worker channel (.reporting flight result) [] none)
  | interrupt {flight : Flight} (phase : worker.phase = .executing flight)
    (flying : view.ended = none) (stopping : view.stopping = true) :
    Advance view worker channel (.plain worker channel (.closing (some flight)) [] none)
  | close {flight : Option Flight} (phase : worker.phase = .closing flight) :
    Advance view worker channel
      ⟨{ worker with phase := .announcing flight }, channel.close.2, [], none, channel.close.1⟩
  | announce {flight : Option Flight} (phase : worker.phase = .announcing flight)
    (isNew : worker.state.canTransition .draining = true) :
    Advance view worker channel
      ⟨{ worker with phase := .afterAnnouncing view flight, state := .draining }, channel,
        Worker.drainReports worker.state channel.buffer.length, none, []⟩
  | resume {flight : Option Flight} (phase : worker.phase = .announcing flight)
    (before : worker.state.canTransition .draining = false) :
    Advance view worker channel
      (.plain worker channel (.afterAnnouncing view flight) [] none)
  | settle {flight : Flight} {deadline : Nat} {result : ExecutionResult}
    (phase : worker.phase = .draining flight deadline) (ended : view.ended = some result) :
    Advance view worker channel (.plain worker channel (.reporting flight result) [] none)
  | cut {flight : Flight} {deadline : Nat} (phase : worker.phase = .draining flight deadline)
    (flying : view.ended = none) (late : deadline ≤ view.now) :
    Advance view worker channel
      (.plain worker channel (.aborting flight (view.now + abortGraceMs)) [] (some .abort))
  | yield {flight : Flight} {deadline : Nat} (phase : worker.phase = .aborting flight deadline)
    (ended : view.ended.isSome = true) :
    Advance view worker channel (.plain worker channel (.reporting flight .aborted) [] none)
  | detach {flight : Flight} {deadline : Nat} (phase : worker.phase = .aborting flight deadline)
    (flying : view.ended.isSome = false) (late : deadline ≤ view.now) :
    Advance view worker channel
      (.plain worker channel (.reporting flight .aborted) [Worker.leftBehind flight] none)
  | report {flight : Flight} {result : ExecutionResult}
    (phase : worker.phase = .reporting flight result) :
    Advance view worker channel
      ⟨{ worker with
          phase := .reported
          outcome := if result = .aborted then .forced else worker.outcome }, channel,
        flight.reports view.graceMs (view.now - flight.startedAt) result, none, []⟩
  | again (phase : worker.phase = .reported) (calm : view.stopping = false) :
    Advance view worker channel (.plain worker channel .dequeuing [] none)
  | quit (phase : worker.phase = .reported) (stopping : view.stopping = true) :
    Advance view worker channel (.plain worker channel .leaving [] none)
  | obey (phase : worker.phase = .leaving) (stopping : view.stopping = true) :
    Advance view worker channel (.plain worker channel (.closing none) [] none)
  | leave (phase : worker.phase = .leaving) (calm : view.stopping = false) :
    Advance view worker channel (.plain worker channel .sealing [Worker.handlesDropped] none)
  | shut (phase : worker.phase = .sealing) :
    Advance view worker channel
      ⟨{ worker with phase := .discarding 0 }, channel.close.2, [], none, channel.close.1⟩
  | discard {count : Nat} {item : α} {woken : Option Ticket} {next : Channel α}
    (phase : worker.phase = .discarding count)
    (received : channel.receive = (.item item, woken, next)) :
    Advance view worker channel
      ⟨{ worker with phase := .discarding (count + 1) }, next, [], some (.discard item),
        woken.toList⟩
  | exhaust {count : Nat} (phase : worker.phase = .discarding count)
    (empty : channel.buffer = []) :
    Advance view worker channel (.plain worker channel (.summing count) [] none)
  | sum {count : Nat} (phase : worker.phase = .summing count) :
    Advance view worker channel
      (.plain worker channel .finishing (Worker.discardReports count) none)
  | stop (phase : worker.phase = .finishing) :
    Advance view worker channel
      ⟨{ worker with phase := .ended, state := .stopped }, channel,
        Worker.stoppedReports worker.state worker.outcome, none, []⟩

namespace Worker

variable [Queued α] {view : Surroundings} {worker : Worker α} {channel : Channel α}
  {stride : Stride α}

theorem dequeue_advance (phase : worker.phase = .dequeuing)
    (stepped : worker.dequeue channel view.stopping = some stride) :
    Advance view worker channel stride := by
  unfold dequeue moveTo at stepped
  cases stopping : view.stopping with
  | true =>
    simp only [stopping, if_true, Option.some.injEq] at stepped
    exact stepped ▸ .heed phase stopping
  | false =>
    simp only [stopping, Bool.false_eq_true, if_false] at stepped
    split at stepped
    · rename_i item woken next received
      simp only [Option.some.injEq] at stepped
      exact stepped ▸ .take phase stopping received
    · rename_i woken next received
      simp only [Option.some.injEq] at stepped
      exact stepped ▸ .desert phase stopping received
    · cases stepped

theorem announce_advance {flight : Option Flight} (phase : worker.phase = .announcing flight)
    (stepped : worker.announce channel (.afterAnnouncing view flight) = some stride) :
    Advance view worker channel stride := by
  unfold announce moveTo at stepped
  cases isNew : worker.state.canTransition .draining with
  | true =>
    simp only [isNew, if_true, Option.some.injEq] at stepped
    exact stepped ▸ .announce phase isNew
  | false =>
    simp only [isNew, Bool.false_eq_true, if_false, Option.some.injEq] at stepped
    exact stepped ▸ .resume phase isNew

/-- A step that is made is made by one of the rules. -/
theorem step_advance (stepped : worker.step view channel = some stride) :
    Advance view worker channel stride := by
  unfold step at stepped
  split at stepped
  case h_1 phase => exact Option.some.inj stepped ▸ .begin phase
  case h_2 phase => exact dequeue_advance phase stepped
  case h_3 item phase => exact Option.some.inj stepped ▸ .launch phase
  case h_4 flight phase =>
    split at stepped
    · rename_i result ended
      exact Option.some.inj stepped ▸ .land phase ended
    · rename_i flying
      split at stepped
      · rename_i stopping
        exact Option.some.inj stepped ▸ .interrupt phase flying stopping
      · cases stepped
  case h_5 flight phase => exact Option.some.inj stepped ▸ .close phase
  case h_6 flight phase => exact announce_advance phase stepped
  case h_7 phase => exact announce_advance phase stepped
  case h_8 flight deadline phase =>
    split at stepped
    · rename_i result ended
      exact Option.some.inj stepped ▸ .settle phase ended
    · rename_i flying
      split at stepped
      · rename_i late
        exact Option.some.inj stepped ▸ .cut phase flying late
      · cases stepped
  case h_9 flight deadline phase =>
    split at stepped
    · rename_i ended
      exact Option.some.inj stepped ▸ .yield phase ended
    · rename_i flying
      split at stepped
      · rename_i late
        exact Option.some.inj stepped ▸ .detach phase (by simpa using flying) late
      · cases stepped
  case h_10 flight result phase => exact Option.some.inj stepped ▸ .report phase
  case h_11 phase =>
    unfold moveTo at stepped
    cases stopping : view.stopping with
    | true =>
      simp only [stopping, if_true, Option.some.injEq] at stepped
      exact stepped ▸ .quit phase stopping
    | false =>
      simp only [stopping, Bool.false_eq_true, if_false, Option.some.injEq] at stepped
      exact stepped ▸ .again phase stopping
  case h_12 phase =>
    split at stepped
    · rename_i stopping
      exact Option.some.inj stepped ▸ .obey phase stopping
    · rename_i calm
      exact Option.some.inj stepped ▸ .leave phase (by simpa using calm)
  case h_13 phase => exact Option.some.inj stepped ▸ .shut phase
  case h_14 count phase =>
    split at stepped
    · rename_i item woken next received
      exact Option.some.inj stepped ▸ .discard phase received
    · rename_i answer woken next nothing received
      obtain ⟨empty, same⟩ := Channel.receive_none received nothing
      rw [same] at stepped
      exact Option.some.inj stepped ▸ .exhaust phase empty
  case h_15 count phase => exact Option.some.inj stepped ▸ .sum phase
  case h_16 phase => exact Option.some.inj stepped ▸ .stop phase
  case h_17 => cases stepped
  case h_18 => cases stepped

end Worker

namespace Advance

variable [Queued α] {view : Surroundings} {worker : Worker α} {channel : Channel α}
  {stride : Stride α}

theorem buffer (advance : Advance view worker channel stride) :
    channel.buffer = stride.received ++ stride.channel.buffer := by
  cases advance with
  | take phase calm received => exact (Channel.receive_item received).1
  | discard phase received => exact (Channel.receive_item received).1
  | announce phase isNew | resume phase before =>
    rename_i flight
    cases flight <;> rfl
  | _ => rfl

theorem handles (advance : Advance view worker channel stride) :
    stride.channel.handles = channel.handles := by
  cases advance with
  | take phase calm received => exact (Channel.receive_item received).2.2
  | discard phase received => exact (Channel.receive_item received).2.2
  | _ => rfl

theorem closed (advance : Advance view worker channel stride) (shut : channel.closed = true) :
    stride.channel.closed = true := by
  cases advance with
  | take phase calm received => exact (Channel.receive_item received).2.1.trans shut
  | discard phase received => exact (Channel.receive_item received).2.1.trans shut
  | close phase => rfl
  | shut phase => rfl
  | _ => exact shut

end Advance

end WorkHost
