import WorkHost.Proofs.Host.Conservation
import WorkHost.Proofs.Host.Grace

/-!
Contract: nothing new is started after a request to stop.

At most one item has been dequeued whose result is not yet reported (`inHand`). From the
request on no other item is dequeued (`frozen_invariant`); what is accepted besides is
discarded.
-/

namespace WorkHost

namespace Lives

variable {α : Type}

/-- The items whose results were reported. -/
def settled (lives : Lives α) : List (Call α) :=
  (lives.toList.filter fun life => life.verdict.isSome).map Life.call

/-- The items whose results are yet to be reported. -/
def unsettled (lives : Lives α) : List (Call α) :=
  (lives.toList.filter fun life => life.verdict.isNone).map Life.call

theorem filter_past {lives : Lives α} (past : ∀ life ∈ lives.past, life.verdict.isSome = true) :
    lives.past.filter (fun life => life.verdict.isSome) = lives.past ∧
      lives.past.filter (fun life => life.verdict.isNone) = [] := by
  refine ⟨List.filter_eq_self.mpr past, List.filter_eq_nil_iff.mpr fun life member => ?_⟩
  simpa using Option.isSome_iff_ne_none.mp (past life member)

theorem calls_eq {lives : Lives α} (past : ∀ life ∈ lives.past, life.verdict.isSome = true) :
    lives.toList.map Life.call = lives.settled ++ lives.unsettled := by
  unfold settled unsettled toList
  rw [List.filter_append, List.filter_append, (filter_past past).1, (filter_past past).2]
  cases lives.current with
  | none => simp
  | some life => cases verdict : life.verdict <;> simp [verdict]

theorem unsettled_length {lives : Lives α}
    (past : ∀ life ∈ lives.past, life.verdict.isSome = true) : lives.unsettled.length ≤ 1 := by
  unfold unsettled toList
  rw [List.filter_append, (filter_past past).2]
  cases lives.current with
  | none => simp
  | some life => cases verdict : life.verdict <;> simp [verdict]

theorem unsettled_eq_nil_iff {lives : Lives α} :
    lives.unsettled = [] ↔ ∀ life ∈ lives.toList, life.verdict.isSome = true := by
  simp [unsettled, List.filter_eq_nil_iff, Option.isSome_iff_ne_none]

end Lives

theorem Advance.held_of_stopping {β : Type} [Queued β] {view : Surroundings} {worker : Worker β}
    {channel : Channel β} {stride : Stride β} (advance : Advance view worker channel stride)
    (stopping : view.stopping = true) : stride.worker.phase.held = [] := by
  cases advance with
  | take phase calm received => simp [stopping] at calm
  | announce phase isNew | resume phase before =>
    rename_i flight
    cases flight <;> rfl
  | _ => rfl

namespace Interplay

variable {α : Type} [Queued α]

/-- The items that were dequeued and whose results are yet to be reported. -/
def inHand (state : Interplay α) : List (Call α) :=
  state.record.lives.unsettled ++ state.host.worker.phase.held

theorem Reached.taken_eq {state : Interplay α} (reached : state.Reached) :
    state.record.taken = state.record.lives.settled ++ state.inHand := by
  rw [reached.conserved.taken, inHand, ← List.append_assoc,
    ← Lives.calls_eq reached.tended.past]
  rfl

theorem Reached.inHand_length {state : Interplay α} (reached : state.Reached) :
    state.inHand.length ≤ 1 := by
  have one := Lives.unsettled_length reached.tended.past
  unfold inHand
  cases phase : state.host.worker.phase with
  | launching call =>
    have custody := reached.tended.custody
    rw [phase] at custody
    have nothing : state.record.lives.unsettled = [] :=
      Lives.unsettled_eq_nil_iff.mpr (Lives.forall_toList reached.tended.past custody)
    simp [nothing, Phase.held]
  | _ => simpa [Phase.held] using one

/-- A stop was requested, and nothing was dequeued since an earlier state. -/
structure FrozenSince (earlier state : Interplay α) : Prop where
  stopping : state.host.stopping = true
  taken : state.record.taken = earlier.record.taken

theorem frozen_invariant (earlier : Interplay α) : Invariant (FrozenSince earlier) where
  traffic _ _ _ frozen := ⟨frozen.stopping, frozen.taken⟩
  stop _ _ frozen := ⟨rfl, frozen.taken⟩
  conclude state result _ frozen := by
    unfold conclude
    split
    · exact ⟨frozen.stopping, frozen.taken⟩
    · exact frozen
  elapse _ _ _ frozen := ⟨frozen.stopping, frozen.taken⟩
  advance state stride _ advance frozen := by
    refine ⟨frozen.stopping, ?_⟩
    rw [advance_taken, advance.held_of_stopping frozen.stopping, List.append_nil, frozen.taken]
  collapse _ _ _ _ _ frozen := ⟨frozen.stopping, frozen.taken⟩

/-- A stop was requested while the worker had no item. -/
structure Idle (state : Interplay α) : Prop where
  stopping : state.host.stopping = true
  empty : state.host.worker.phase.inFlight = false
  free : state.host.worker.phase.held = []
  graceful : state.host.worker.outcome = .graceful

theorem idle_invariant : Invariant (Idle : Interplay α → Prop) where
  traffic _ _ _ idle := ⟨idle.stopping, idle.empty, idle.free, idle.graceful⟩
  stop _ _ idle := ⟨rfl, idle.empty, idle.free, idle.graceful⟩
  conclude state result _ idle := by
    unfold conclude
    split
    · exact ⟨idle.stopping, idle.empty, idle.free, idle.graceful⟩
    · exact idle
  elapse _ _ _ idle := ⟨idle.stopping, idle.empty, idle.free, idle.graceful⟩
  advance state stride _ advance idle := by
    obtain ⟨stopping, empty, free, graceful⟩ := idle
    have elsewhere : ∀ flight result, state.host.worker.phase ≠ .reporting flight result := by
      intro flight result phase
      simp [phase, Phase.inFlight] at empty
    refine ⟨stopping, ?_, advance.held_of_stopping stopping,
      (advance.outcome elsewhere).trans graceful⟩
    cases advance with
    | announce phase isNew | resume phase before =>
      rename_i flight
      cases flight <;> simp_all [Phase.inFlight, Phase.afterAnnouncing, Stride.plain]
    | _ => simp_all [Phase.inFlight, Phase.held, Stride.plain]
  collapse _ _ _ _ _ idle := ⟨idle.stopping, rfl, rfl, idle.graceful⟩

theorem Reached.idle {state : Interplay α} (reached : state.Reached)
    (calm : state.host.stopping = false) (free : state.inHand = []) : (state.step .stop).Idle := by
  obtain ⟨settled, unheld⟩ := List.append_eq_nil_iff.mp free
  refine ⟨rfl, ?_, unheld, reached.graceful_of_calm calm⟩
  rw [← Bool.not_eq_true]
  intro inFlight
  obtain ⟨life, current, unjudged⟩ := reached.tended.custody.unjudged inFlight
  have member : life ∈ state.record.lives.toList :=
    List.mem_append_right _ (Option.mem_toList.mpr current)
  have judged := Lives.unsettled_eq_nil_iff.mp settled life member
  simp [unjudged] at judged

theorem graceMs_invariant (graceMs : Nat) :
    Invariant fun state : Interplay α => state.host.graceMs = graceMs where
  traffic _ _ _ same := same
  stop _ _ same := same
  conclude state result _ same := by
    unfold conclude
    split <;> exact same
  elapse _ _ _ same := same
  advance _ _ _ _ same := same
  collapse _ _ _ _ _ same := same

theorem run_graceMs (config : QueueConfig) (moves : List (Move α)) :
    ((create config).run moves).host.graceMs = config.shutdownTimeoutMs :=
  (graceMs_invariant config.shutdownTimeoutMs).run (reached_create config) rfl moves

/-- What a request to stop leaves to be done: the item in hand, if there is one, within
its grace period. The worker looks in time if its timer wakes it in time. -/
theorem nothing_new_after_stop (config : QueueConfig) (before after : List (Move α)) :
    let asked := (create config).run before
    let later := (asked.step .stop).run after
    let lives := later.record.lives.toList
    let grace := config.shutdownTimeoutMs
    (asked.record.taken = asked.record.lives.settled ++ asked.inHand ∧
        asked.inHand.length ≤ 1) ∧
      (later.record.taken = asked.record.taken ∧ later.record.started <+: asked.record.taken) ∧
      (∀ life ∈ lives, life.Judged grace later.record.published) ∧
      ((create config).Punctual (before ++ .stop :: after) →
        ∀ life ∈ lives, life.AbortedIfLate grace later.record.published) ∧
      (asked.host.stopping = false → asked.inHand = [] →
        later.host.worker.outcome = .graceful) ∧
      (later.host.worker.state = .stopped →
        later.record.started = asked.record.taken ∧
        later.callers.accepted = asked.record.taken ++ later.record.discarded ∧
        later.record.events.filterMap EventKind.discardCount? =
          (if later.record.discarded.length = 0 then [] else [later.record.discarded.length]) ∧
        (∀ life ∈ lives, life.verdict.isSome = true) ∧
        (later.host.worker.outcome = .forced ↔
          ∃ life ∈ lives, life.verdict = some .aborted)) := by
  intro asked later lives grace
  have reachedAsked : asked.Reached := reached_run config before
  have reachedStop := reachedAsked.step .stop
  have reachedLater : later.Reached := reachedStop.run after
  have whole : (create config).run (before ++ .stop :: after) = later := run_append _ _ _
  have sameGrace : later.host.graceMs = grace := whole ▸ run_graceMs config _
  have frozen : FrozenSince asked later :=
    (frozen_invariant asked).run reachedStop ⟨rfl, rfl⟩ after
  have conserved := reachedLater.conserved
  rw [← sameGrace]
  refine ⟨⟨reachedAsked.taken_eq, reachedAsked.inHand_length⟩, ⟨frozen.taken, ?_⟩, ?_, ?_, ?_, ?_⟩
  · rw [← frozen.taken, conserved.taken]
    exact List.prefix_append _ _
  · intro life member
    exact (reachedLater.tended.faithful life member).isJudged reachedLater.oneStart
  · intro punctual life member
    have inTime := run_inTime (reached_create config) (create_inTime config) _ punctual
    rw [whole] at inTime
    exact inTime.abortedIfLate reachedLater member
  · intro calm free
    exact (idle_invariant.run reachedStop (reachedAsked.idle calm free) after).graceful
  · intro stopped
    have sound := reachedLater.sound
    have phase := sound.lifecycle.ended_of_stopped stopped
    have started : later.record.started = asked.record.taken := by
      rw [← frozen.taken, conserved.taken, phase]
      exact (List.append_nil _).symm
    have custody := reachedLater.tended.custody
    rw [phase] at custody
    refine ⟨started, ?_, conserved.discardEvents_of_stopped sound stopped, ?_, reachedLater.blamed⟩
    · rw [conserved.accepted_of_stopped sound stopped, started]
    · exact Lives.forall_toList reachedLater.tended.past custody

/-- A punctual run in which the item in flight overruns. -/
theorem nothing_new_after_stop_of_overrun :
    let enqueue : Move WorkItem :=
      .traffic (.call .immediate ⟨⟨List.replicate 32 0, rfl⟩, default, default⟩)
    let work : Move WorkItem := .work none
    let before := [work, enqueue, work, work, enqueue]
    let after := [work, work, work, .elapse 100, work, .conclude .aborted, work, work, work]
    let later := (((create ⟨1, .reject, 100⟩).run before).step .stop).run after
    (create ⟨1, .reject, 100⟩).Punctual (before ++ .stop :: after) ∧
      (∀ life ∈ later.record.lives.toList, life.AbortedIfLate 100 later.record.published) ∧
      later.host.worker.outcome = .forced := by
  intro enqueue work before after later
  obtain ⟨_, _, _, aborted, _⟩ := nothing_new_after_stop ⟨1, .reject, 100⟩ before after
  subst later
  exact ⟨by decide +kernel, aborted (by decide +kernel), by decide +kernel⟩

end Interplay

end WorkHost
