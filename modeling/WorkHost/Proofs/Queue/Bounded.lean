import Mathlib.Data.List.Perm.Subperm
import WorkHost.Proofs.Queue.Admission

/-!
Contract: a task queue is a bounded buffer, under any interleaving of its callers and its
receiver.

Used and reserved places never exceed the capacity, and they are what `len` counts
(`Accounted`). A call is suspended only while the queue is open and full, those that wait do
so in the order of their arrival, and nobody gets past them (`Queues`). Closing turns away
everyone who waits (`TurnsAway`). `buffer_stays_bounded` says all of it of every run.
-/

namespace WorkHost

namespace Callers

variable {α : Type}

theorem mem_returned_enter {callers : Callers α} {waiter : Waiter α} {progress : Enqueueing}
    {entry : Call α × Except Failure WorkId}
    (member : entry ∈ (callers.enter waiter progress).returned) :
    entry ∈ callers.returned ∨ entry.1 = waiter.call := by
  cases progress with
  | done result =>
    refine (List.mem_append.mp member).imp_right fun isNew => ?_
    rw [List.mem_singleton.mp isNew]
  | waiting => exact Or.inl member

theorem mem_waiters_enter {callers : Callers α} {waiter other : Waiter α}
    {progress : Enqueueing} (member : other ∈ (callers.enter waiter progress).waiters) :
    other ∈ callers.waiters ∨ other = waiter := by
  cases progress with
  | done result => exact Or.inl member
  | waiting => exact (List.mem_append.mp member).imp_right List.mem_singleton.mp

theorem mem_waiters_proceed {callers : Callers α} {waiter other : Waiter α}
    {progress : Enqueueing} (member : other ∈ (callers.proceed waiter progress).waiters) :
    other ∈ callers.waiters := by
  cases progress with
  | done result => exact List.mem_of_mem_filter member
  | waiting => exact member

theorem waiter_eq {callers : Callers α} (numbered : callers.Numbered) {first second : Waiter α}
    (firstWaits : first ∈ callers.waiters) (secondWaits : second ∈ callers.waiters)
    (same : first.call.number = second.call.number) : first = second := by
  have found := find?_eq_some numbered firstWaits
  rw [same, find?_eq_some numbered secondWaits] at found
  exact (Option.some.inj found).symm

@[simp]
theorem isFired_enter (callers : Callers α) (waiter : Waiter α) (progress : Enqueueing)
    (token : Option Nat) :
    (callers.enter waiter progress).isFired token = callers.isFired token := by
  cases progress <;> rfl

@[simp]
theorem isFired_proceed (callers : Callers α) (waiter : Waiter α) (progress : Enqueueing)
    (token : Option Nat) :
    (callers.proceed waiter progress).isFired token = callers.isFired token := by
  cases progress <;> rfl

theorem isFired_cons (callers : Callers α) (token : Nat) {other : Option Nat}
    (fired : callers.isFired other = true) :
    ({ callers with firedTokens := token :: callers.firedTokens } : Callers α).isFired other =
      true := by
  cases other with
  | none => exact fired
  | some name =>
    simp only [isFired, Option.any_some, List.contains_cons] at fired ⊢
    rw [fired, Bool.or_true]

theorem mem_line {callers : Callers α} {number : Ticket} :
    number ∈ callers.line ↔ ∃ waiter ∈ callers.waiters, waiter.call.number = number :=
  List.mem_map

end Callers

namespace Traffic

variable {α : Type}

/-- What becomes of a call that waited when its queue was closed. -/
structure TurnedAway (waiter : Waiter α) (channel : Channel (Call α)) (callers : Callers α) :
    Prop where
  shut : channel.closed = true
  issued : waiter.call.number < callers.issued
  single : ∀ other ∈ callers.waiters, other.call.number = waiter.call.number → other = waiter
  answer : ∀ result, (waiter.call, result) ∈ callers.returned →
    result = .error .queueClosed ∨
      result = .error .enqueueCancelled ∧ callers.isFired waiter.token = true

namespace TurnedAway

variable {waiter : Waiter α} {channel next : Channel (Call α)} {callers : Callers α}

/-- A later call has another number. -/
theorem enter (turned : TurnedAway waiter channel callers) (shut : next.closed = true)
    {other : Waiter α} (isNew : other.call.number = callers.issued) (progress : Enqueueing) :
    TurnedAway waiter next (callers.enter other progress) := by
  have differs : waiter.call.number ≠ other.call.number :=
    isNew ▸ Nat.ne_of_lt turned.issued
  refine ⟨shut, ?_, ?_, ?_⟩
  · rw [Callers.issued_enter]
    exact Nat.lt_succ_of_lt turned.issued
  · intro another member same
    rcases Callers.mem_waiters_enter member with old | rfl
    · exact turned.single another old same
    · exact absurd same.symm differs
  · intro result member
    rw [Callers.isFired_enter]
    rcases Callers.mem_returned_enter member with old | isNew
    · exact turned.answer result old
    · exact absurd (congrArg Call.number isNew) differs

theorem proceed (turned : TurnedAway waiter channel callers) (shut : next.closed = true)
    {other : Waiter α} (waits : other ∈ callers.waiters) :
    TurnedAway waiter next (callers.proceed other (.done (.error
      (if callers.isFired other.token then .enqueueCancelled else .queueClosed)))) := by
  refine ⟨shut, ?_, ?_, ?_⟩
  · rw [Callers.issued_proceed]
    exact turned.issued
  · exact fun another member => turned.single another (Callers.mem_waiters_proceed member)
  · intro result member
    rw [Callers.isFired_proceed]
    rcases List.mem_append.mp member with old | isNew
    · exact turned.answer result old
    · obtain ⟨sameCall, sameResult⟩ := Prod.mk.inj (List.mem_singleton.mp isNew)
      have same : other = waiter := turned.single other waits (congrArg Call.number sameCall.symm)
      rw [sameResult, same]
      cases callers.isFired waiter.token with
      | true => exact Or.inr ⟨rfl, rfl⟩
      | false => exact Or.inl rfl

theorem leave (turned : TurnedAway waiter channel callers) (shut : next.closed = true)
    (number : Ticket) : TurnedAway waiter next (callers.leave number) := by
  refine ⟨shut, turned.issued, fun another member => ?_, turned.answer⟩
  exact turned.single another (List.mem_of_mem_filter member)

theorem setChannel (turned : TurnedAway waiter channel callers) (shut : next.closed = true) :
    TurnedAway waiter next callers :=
  ⟨shut, turned.issued, turned.single, turned.answer⟩

end TurnedAway

variable [Queued α]

/-- What a waiting call would be answered if it looked now. -/
def outlook (traffic : Traffic α) (waiter : Waiter α) : Enqueueing :=
  (traffic.queue.resumeWithCancel waiter.call.number (traffic.callers.isFired waiter.token)
    waiter.call).1

theorem look_callers (traffic : Traffic α) (waiter : Waiter α) :
    (traffic.look waiter).callers = traffic.callers.proceed waiter (traffic.outlook waiter) :=
  rfl

theorem outlook_of_closed {traffic : Traffic α} (shut : traffic.queue.channel.closed = true)
    (waiter : Waiter α) :
    traffic.outlook waiter = .done (.error
      (if traffic.callers.isFired waiter.token then .enqueueCancelled else .queueClosed)) := by
  unfold outlook
  cases traffic.callers.isFired waiter.token with
  | true => rfl
  | false => exact TaskQueue.resumeWithCancel_of_closed _ _ shut

/-- Only a call that has no place and no token that fired goes on waiting. -/
theorem outlook_eq_waiting (traffic : Traffic α) (waiter : Waiter α) :
    traffic.outlook waiter = .waiting ↔
      traffic.callers.isFired waiter.token = false ∧ traffic.queue.channel.closed = false ∧
        waiter.call.number ∉ traffic.queue.channel.granted := by
  unfold outlook TaskQueue.resumeWithCancel TaskQueue.resume Channel.resume
  cases traffic.callers.isFired waiter.token with
  | true => simp
  | false =>
    cases shut : traffic.queue.channel.closed with
    | true => simp [TaskQueue.conclude]
    | false =>
      by_cases placed : waiter.call.number ∈ traffic.queue.channel.granted
      · simp [placed, TaskQueue.conclude]
      · simp [placed, TaskQueue.conclude]

theorem step_turnedAway {traffic : Traffic α} {waiter : Waiter α}
    (turned : TurnedAway waiter traffic.queue.channel traffic.callers) (move : Move α) :
    TurnedAway waiter (traffic.step move).queue.channel (traffic.step move).callers := by
  obtain ⟨items, effect⟩ := traffic.step_effect move
  have shut := effect.closed.trans turned.shut
  cases move with
  | call route item =>
    simp only [step] at shut ⊢
    split
    · exact turned
    · rename_i handled
      rw [if_neg handled] at shut
      exact turned.enter shut rfl _
  | look number =>
    simp only [step] at shut ⊢
    cases found : traffic.callers.find? number with
    | none => exact turned
    | some other =>
      rw [found] at shut
      rw [Option.elim_some, look_callers, outlook_of_closed turned.shut]
      exact turned.proceed shut (Callers.mem_waiters_of_find? found)
  | abandon number =>
    simp only [step] at shut ⊢
    cases found : traffic.callers.find? number with
    | none => exact turned
    | some other =>
      rw [found] at shut
      exact turned.leave shut _
  | fire token =>
    refine ⟨shut, turned.issued, turned.single, fun result member => ?_⟩
    exact (turned.answer result member).imp_right
      (And.imp_right (Callers.isFired_cons traffic.callers token))
  | cloneHandle =>
    simp only [step]
    split
    · exact turned
    · exact turned.setChannel turned.shut
  | dropHandle =>
    simp only [step]
    split
    · exact turned
    · exact turned.setChannel turned.shut

end Traffic

namespace Delivery

variable {α : Type}

/-- Places are used or reserved, and the permits that are left count the others. -/
structure Accounted (state : Delivery α) (limit : Nat) (permits : Semaphore) : Prop where
  capacity : state.traffic.queue.capacity = limit
  bounded : state.channel.buffer.length + state.channel.granted.length ≤ limit
  /-- Every reserved place is that of a call that waits. -/
  reserved : state.channel.granted.Sublist state.callers.line
  len : state.traffic.queue.len = state.channel.buffer.length + state.channel.granted.length
  noUnderflow : permits.free ≤ state.traffic.queue.capacity
  counted : state.traffic.queue.capacity - permits.free =
    state.channel.buffer.length + state.channel.granted.length

/-- The queue is open, and no place is left. -/
def IsCrowded (state : Delivery α) : Prop :=
  state.channel.closed = false ∧ state.traffic.queue.len = state.traffic.queue.capacity

theorem Attended.accounted {state : Delivery α} (attended : state.Attended)
    {metered : MeteredBuffer (Call α)} (meters : Meters metered state.channel) {limit : Nat}
    (capacity : state.channel.capacity = limit) : state.Accounted limit metered.permits := by
  have balance := meters.balance
  have used : state.channel.len = state.channel.buffer.length + state.channel.granted.length := rfl
  constructor
  · exact capacity
  · omega
  · exact List.Sublist.trans (List.sublist_append_left _ _) attended.orderly.lineup
  · exact used
  · show metered.permits.free ≤ state.channel.capacity
    omega
  · show state.channel.capacity - metered.permits.free = _
    omega

theorem Attended.isCrowded {state : Delivery α} (attended : state.Attended)
    (opened : state.channel.closed = false) (full : state.channel.isFull = true) :
    state.IsCrowded := by
  obtain ⟨metered, meters⟩ := attended.metered
  have balance := meters.balance
  have free := meters.isFull_iff.mp full
  refine ⟨opened, ?_⟩
  show state.channel.len = state.channel.capacity
  omega

theorem Attended.open_of_waiting {state : Delivery α} (attended : state.Attended)
    (someone : state.channel.waiting ≠ []) : state.channel.closed = false := by
  cases shut : state.channel.closed with
  | false => rfl
  | true => exact absurd (attended.lined.released shut) someone

theorem Attended.lineup_eq {state : Delivery α} (attended : state.Attended)
    (opened : state.channel.closed = false) :
    state.channel.granted ++ state.channel.waiting = state.callers.line := by
  refine attended.orderly.lineup.eq_of_length_le (List.Subperm.length_le ?_)
  refine List.subperm_of_subset (attended.orderly.arrived.imp Nat.ne_of_lt) fun number member => ?_
  exact List.mem_append.mpr (attended.lined.placed opened number member).symm

theorem Attended.turnedAway {state : Delivery α} (attended : state.Attended)
    (shut : state.channel.closed = true) {waiter : Waiter α}
    (member : waiter ∈ state.callers.waiters) :
    Traffic.TurnedAway waiter state.channel state.callers where
  shut := shut
  issued := attended.numbered.below _
    (List.mem_append_right _ (List.mem_map_of_mem member))
  single _ waits same := Callers.waiter_eq attended.numbered waits member same
  answer result returned := by
    have apart := (List.nodup_append.mp attended.numbered.distinct).2.2
    exact absurd rfl (apart _ (List.mem_map_of_mem returned) _ (List.mem_map_of_mem member))

variable [Queued α]

/-- How calls wait. -/
structure Queues (state : Delivery α) : Prop where
  /-- A call begins to wait only if there is no place. -/
  entering : ∀ route item,
    (state.traffic.attempt route ⟨state.callers.issued, item⟩).1 = .waiting → state.IsCrowded
  /-- A call that would go on waiting stands in line. -/
  suspended : ∀ waiter ∈ state.callers.waiters,
    state.traffic.outlook waiter = .waiting ↔ waiter.call.number ∈ state.channel.waiting ∧
      state.callers.isFired waiter.token = false
  crowded : state.channel.waiting ≠ [] → state.IsCrowded
  /-- Nobody gets past those in line. -/
  refused : state.channel.waiting ≠ [] → ∀ item,
    state.traffic.queue.tryEnqueue item =
      (.done (.error (.queueFull state.traffic.queue.capacity)), state.traffic.queue)
  arrived : state.callers.line.Pairwise (· < ·)
  lineup : state.channel.closed = false →
    state.channel.granted ++ state.channel.waiting = state.callers.line

/-- What a closed queue answers to one who waited when it was closed. -/
structure TurnsAway (state : Delivery α) (waiter : Waiter α) : Prop where
  released : state.channel.waiting = []
  /-- A call that still waits is turned away as soon as it looks. -/
  told : waiter ∈ state.callers.waiters →
    (state.step (.traffic (.look waiter.call.number))).callers.returned =
      state.callers.returned ++ [(waiter.call, .error
        (if state.callers.isFired waiter.token then .enqueueCancelled else .queueClosed))]
  /-- Only a token that fired gives another answer than that the queue is closed. -/
  answer : ∀ result, (waiter.call, result) ∈ state.callers.returned →
    result = .error .queueClosed ∨
      result = .error .enqueueCancelled ∧ state.callers.isFired waiter.token = true

/-! ## What every run keeps -/

theorem Attended.queues {state : Delivery α} (attended : state.Attended) : state.Queues where
  entering route item waits := by
    obtain ⟨opened, full⟩ := (state.traffic.attempt_entered route _).crowded waits
    exact attended.isCrowded opened full
  suspended waiter member := by
    rw [Traffic.outlook_eq_waiting]
    have inLine : waiter.call.number ∈ state.callers.line :=
      Callers.mem_line.mpr ⟨waiter, member, rfl⟩
    constructor
    · rintro ⟨calm, opened, unplaced⟩
      exact ⟨(attended.lined.placed opened _ inLine).resolve_right unplaced, calm⟩
    · rintro ⟨waits, calm⟩
      refine ⟨calm, attended.open_of_waiting (List.ne_nil_of_mem waits), fun placed => ?_⟩
      exact (List.nodup_append.mp attended.orderly.lineup_nodup).2.2 _ placed _ waits rfl
  crowded someone := attended.isCrowded (attended.open_of_waiting someone) (attended.busy someone)
  refused someone item := by
    have opened := attended.open_of_waiting someone
    have full := attended.busy someone
    simp only [channel] at opened full
    simp [TaskQueue.tryEnqueue, Channel.trySend, TaskQueue.conclude, opened, full]
  arrived := attended.orderly.arrived
  lineup := attended.lineup_eq

theorem step_turnedAway {state : Delivery α} {waiter : Waiter α}
    (turned : Traffic.TurnedAway waiter state.channel state.callers) (move : Move α) :
    Traffic.TurnedAway waiter (state.step move).channel (state.step move).callers :=
  step_keeps (Traffic.step_turnedAway turned)
    (fun channel _ turned => turned.setChannel (channel.receive_closed.trans turned.shut))
    (fun _ _ turned => turned.setChannel rfl) turned move

theorem run_turnsAway {state : Delivery α} (attended : state.Attended)
    (shut : state.channel.closed = true) {waiter : Waiter α}
    (member : waiter ∈ state.callers.waiters) (more : List (Move α)) :
    (state.run more).TurnsAway waiter := by
  have kept : (state.run more).Attended :=
    @run_keeps _ _ Attended (fun _ move attended => step_attended attended move) _ attended more
  have turned : Traffic.TurnedAway waiter (state.run more).channel (state.run more).callers :=
    @run_keeps _ _ (fun state => Traffic.TurnedAway waiter state.channel state.callers)
      (fun _ move turned => step_turnedAway turned move) _ (attended.turnedAway shut member) more
  refine ⟨kept.lined.released turned.shut, fun waits => ?_, turned.answer⟩
  have found : (state.run more).traffic.callers.find? waiter.call.number = some waiter :=
    Callers.find?_eq_some kept.numbered waits
  show ((state.run more).traffic.step _).callers.returned = _
  rw [Traffic.step, found, Option.elim_some, Traffic.look_callers,
    Traffic.outlook_of_closed turned.shut]
  rfl

/-- A queue is a bounded buffer with fair admission, whatever its callers and its receiver do
and in which order. -/
theorem buffer_stays_bounded (config : QueueConfig) (moves : List (Move α)) :
    let state := (create config).run moves
    state.Accounted (max config.capacity 1) (metered config moves).permits ∧
      state.Queues ∧
      ((create config).admissions moves).Pairwise (· < ·) ∧
      (∀ call ∈ state.callers.accepted, call.number ∈ (create config).admissions moves) ∧
      ∀ waiter ∈ state.callers.waiters, ∀ more,
        ((state.step .close).run more).TurnsAway waiter ∧
          ((state.step .discard).run more).TurnsAway waiter := by
  intro state
  have attended : state.Attended := run_attended config moves
  have capacity : state.channel.capacity = max config.capacity 1 := by
    rw [run_channel, Channel.handleAll_capacity]
    rfl
  obtain ⟨sorted, listed⟩ := run_admissions config moves
  refine ⟨attended.accounted (run_metered config moves) capacity, attended.queues, sorted, listed,
    fun waiter member more => ⟨?_, ?_⟩⟩
  · exact run_turnsAway (step_attended attended .close) rfl member more
  · exact run_turnsAway (step_attended attended .discard) state.discard_spec.2.2 member more

end Delivery

end WorkHost
