import WorkHost.Proofs.Host.Publication
import WorkHost.Proofs.Queue.Waking

/-!
Contract: what is final once the worker drains or has stopped.

A worker that does not run has closed the queue (`Lifecycle.closed`). The step that
closes it wakes whoever waits (`Wakes`). From then on the buffer only shrinks and every
caller is turned away (`shut_invariant`, `TurnsAway`); after the worker has stopped, it
does nothing any more (`ended_invariant`).
-/

namespace WorkHost

namespace Advance

variable {β : Type} [Queued β] {view : Surroundings} {worker : Worker β} {channel : Channel β}
  {stride : Stride β}

theorem lined {numbers : List Ticket} (advance : Advance view worker channel stride)
    (lined : channel.Lined numbers) : stride.channel.Lined numbers := by
  cases advance with
  | take phase calm received => exact lined.receive received
  | discard phase received => exact lined.receive received
  | close phase | shut phase => exact .close channel numbers
  | _ => exact lined

/-- Closing the channel wakes the whole line. -/
theorem woken_of_closing (advance : Advance view worker channel stride)
    (opened : channel.closed = false) (shut : stride.channel.closed = true) :
    stride.woken = channel.waiting := by
  cases advance with
  | take phase calm received | discard phase received =>
    have same := (Channel.receive_item received).2.1
    simp [same, opened] at shut
  | close phase | shut phase => rfl
  | _ => simp_all [Stride.plain]

end Advance

namespace Interplay

variable {α : Type} [Queued α]

theorem lined_invariant : Invariant fun state : Interplay α => state.traffic.Lined where
  traffic _ move _ lined := Traffic.step_lined lined move
  stop _ _ lined := lined
  conclude state result _ lined := by
    unfold conclude
    split <;> exact lined
  elapse _ _ _ lined := lined
  advance _ _ _ advance lined := advance.lined lined
  collapse _ _ _ _ _ lined := ⟨lined.placed, lined.released⟩

theorem Reached.lined {state : Interplay α} (reached : state.Reached) : state.traffic.Lined :=
  lined_invariant.reached (fun _ => ⟨nofun, nofun⟩) reached

/-- If the worker's next step closes the queue, it wakes every caller who waits and was
not already woken to take a place. -/
def Wakes (state : Interplay α) : Prop :=
  ∀ stride, state.host.step state.now = some stride →
    state.channel.closed = false → stride.host.queue.channel.closed = true →
      ∀ waiter ∈ state.callers.waiters,
        waiter.call.number ∈ stride.woken ∨ waiter.call.number ∈ state.channel.granted

theorem Reached.wakes {state : Interplay α} (reached : state.Reached) : state.Wakes := by
  intro made stepped opened shut waiter member
  rw [host_step] at stepped
  obtain ⟨stride, advanced, rfl⟩ := Option.map_eq_some_iff.mp stepped
  have woken := (Worker.step_advance advanced).woken_of_closing opened shut
  have placed := reached.lined.placed opened _ (List.mem_map_of_mem member)
  refine placed.imp_left fun waits => ?_
  show waiter.call.number ∈ stride.woken
  rw [woken]
  exact waits

/-- The queue is closed, and nothing has been put in since an earlier state. -/
structure ShutSince (earlier state : Interplay α) : Prop where
  closed : state.channel.closed = true
  buffer : state.channel.buffer <:+ earlier.channel.buffer
  accepted : state.callers.accepted = earlier.callers.accepted

theorem shut_invariant (earlier : Interplay α) : Invariant (ShutSince earlier) where
  traffic state move _ shut := by
    obtain ⟨items, effect⟩ := state.traffic.step_effect move
    have closed : state.traffic.queue.channel.closed = true := shut.closed
    obtain ⟨buffer, accepted⟩ := Traffic.step_of_closed closed move
    exact ⟨effect.closed.trans shut.closed, buffer ▸ shut.buffer, accepted.trans shut.accepted⟩
  stop _ _ shut := ⟨shut.closed, shut.buffer, shut.accepted⟩
  conclude state result _ shut := by
    unfold conclude
    split
    · exact ⟨shut.closed, shut.buffer, shut.accepted⟩
    · exact shut
  elapse _ _ _ shut := ⟨shut.closed, shut.buffer, shut.accepted⟩
  advance state stride _ advance shut := by
    have kept : stride.channel.buffer <:+ state.channel.buffer :=
      ⟨stride.received, advance.buffer.symm⟩
    exact ⟨advance.closed shut.closed, kept.trans shut.buffer, shut.accepted⟩
  collapse _ _ _ _ _ shut := ⟨shut.closed, List.nil_suffix, shut.accepted⟩

/-- The worker has stopped, and nothing was started or reported since an earlier state. -/
structure EndedSince (earlier state : Interplay α) : Prop where
  phase : state.host.worker.phase = .ended
  started : state.record.started = earlier.record.started
  reports : state.record.reports = earlier.record.reports

theorem ended_invariant (earlier : Interplay α) : Invariant (EndedSince earlier) where
  traffic _ _ _ ended := ⟨ended.phase, ended.started, ended.reports⟩
  stop _ _ ended := ⟨ended.phase, ended.started, ended.reports⟩
  conclude state result _ ended := by
    unfold conclude
    split
    · refine ⟨ended.phase, ?_, ended.reports⟩
      rw [← ended.started]
      exact state.record.lives.calls_update fun _ => rfl
    · exact ended
  elapse _ _ _ ended := ⟨ended.phase, ended.started, ended.reports⟩
  advance state stride _ advance ended := by
    have phase := ended.phase
    cases advance <;> simp_all
  collapse state count message _ phase ended := by
    rw [ended.phase] at phase
    cases phase

/-- A caller who makes a call, or who waits and looks again, is turned away unless a
token that the call heeds has fired; none is left in line. -/
structure TurnsAway (state : Interplay α) : Prop where
  line : state.channel.waiting = []
  calls : ∀ route item, state.channel.handles ≠ 0 →
    (state.callers.isFired route.token? = false ∨ state.host.queue.policy = .reject) →
    (state.step (.traffic (.call route item))).callers.returned =
      state.callers.returned ++ [(⟨state.callers.issued, item⟩, .error .queueClosed)]
  waiters : ∀ waiter ∈ state.callers.waiters, state.callers.isFired waiter.token = false →
    (state.step (.traffic (.look waiter.call.number))).callers.returned =
      state.callers.returned ++ [(waiter.call, .error .queueClosed)]

theorem turnsAway_of_closed {state : Interplay α} (reached : state.Reached)
    (shut : state.channel.closed = true) : state.TurnsAway where
  line := reached.lined.released shut
  calls route item handled heard := by
    have closed : state.traffic.queue.channel.closed = true := shut
    have answered := Traffic.call_of_closed closed route item heard
    rw [step, Traffic.step, if_neg (by exact handled)]
    exact answered
  waiters waiter member heard := by
    have found := Callers.find?_eq_some reached.sound.numbered member
    have closed : state.traffic.queue.channel.closed = true := shut
    have answered := Traffic.look_of_closed closed heard
    simpa [step, Traffic.step, setTraffic, traffic, found] using answered

/-- The worker's state only moves forward. -/
structure Forward (reached later : Interplay α) : Prop where
  first : reached.record.states.head? = some .running
  last : reached.record.states.getLast? = some reached.host.worker.state
  increasing : reached.record.states.Pairwise fun earlier next => earlier.rank < next.rank
  kept : reached.record.published <+: later.record.published

/-- Draining is entered exactly if the worker notices a request to stop, once, and with
one event. -/
structure DrainsOnRequest (reached later : Interplay α) (moves : List (Move α)) : Prop where
  once : reached.record.states.count .draining ≤ 1
  announced :
    reached.record.events.count .drainStarted = reached.record.states.count .draining
  onlyIf : .draining ∈ reached.record.states → reached.record.noticed = true
  soon : reached.record.noticed = true → 3 ≤ moves.countP Move.isWork →
    .draining ∈ later.record.states
  settled : reached.host.worker.state = .stopped →
    (.draining ∈ reached.record.states ↔ reached.record.noticed = true)

/-- How the worker's state, the queue and its callers go together, in every state that is
reached and from there on. -/
theorem lifecycle_of_run (config : QueueConfig) (before after : List (Move α)) :
    let reached := (create config).run before
    let later := reached.run after
    Forward reached later ∧ reached.Wakes ∧
      (reached.host.worker.state ≠ .running → ShutSince reached later ∧ later.TurnsAway) ∧
      (reached.host.worker.state = .stopped →
        reached.channel.buffer = [] ∧ EndedSince reached later) ∧
      DrainsOnRequest reached later after := by
  intro reached later
  have reachable : reached.Reached := reached_run config before
  have sound := reachable.sound
  have announced := reachable.announced
  have attentive := reachable.attentive
  refine ⟨?_, reachable.wakes, ?_, ?_, ?_⟩
  · exact ⟨announced.course.last.1, announced.course.last.2, announced.course.increasing,
      run_published reachable after⟩
  · intro notRunning
    have shut : ShutSince reached later :=
      (shut_invariant reached).run reachable
        ⟨sound.lifecycle.closed notRunning, List.suffix_rfl, rfl⟩ after
    exact ⟨shut, turnsAway_of_closed (reachable.run after) shut.closed⟩
  · intro stopped
    exact ⟨sound.lifecycle.buffer_of_stopped stopped,
      (ended_invariant reached).run reachable
        ⟨sound.lifecycle.ended_of_stopped stopped, rfl, rfl⟩ after⟩
  · refine ⟨announced.course.count_draining, announced.drains, attentive.noticed, ?_, ?_⟩
    · intro noticed enough
      have near : reached.host.worker.phase.stepsToDraining ≤ 3 := by
        cases reached.host.worker.phase <;> simp [Phase.stepsToDraining]
      exact run_draining reachable noticed after (Nat.le_trans near enough)
    · intro stopped
      refine ⟨attentive.noticed, fun noticed => ?_⟩
      refine (attentive.heading noticed).resolve_right fun heads => ?_
      rw [sound.lifecycle.ended_of_stopped stopped] at heads
      cases heads

end Interplay

end WorkHost
