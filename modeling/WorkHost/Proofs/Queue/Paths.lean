import WorkHost.Proofs.Queue.Admission

/-!
Contract: what the ways to enqueue have in common.

`TaskQueue.PathsAgree` compares the first answers of the ways, in any state of the queue.
Whichever way a call has taken, its item is put in exactly if it returns the item's
identifier (`Traffic.step_returns`). No move changes the policy (`Delivery.run_policy`), and
under the policy of rejection all calls are of one kind (`Traffic.step_of_reject`).
-/

namespace WorkHost

/-! ## The first answer -/

namespace TaskQueue

variable {β : Type} [Queued β] {queue : TaskQueue β}

/-- How the ways to enqueue an item compare in one state of a queue. -/
structure PathsAgree (queue : TaskQueue β) : Prop where
  /-- Under the policy of rejection there is one way. -/
  rejecting : queue.policy = .reject → ∀ ticket cancelled item,
    queue.enqueue ticket item = queue.tryEnqueue item ∧
      queue.enqueueWithCancel ticket cancelled item = queue.tryEnqueue item
  closed : ∀ item,
    (queue.tryEnqueue item).1 = .done (.error .queueClosed) ↔ queue.isClosed = true
  full : ∀ item,
    (queue.tryEnqueue item).1 = .done (.error (.queueFull queue.capacity)) ↔
      queue.isClosed = false ∧ queue.len = queue.capacity
  roomy : queue.isClosed = false → queue.len ≠ queue.capacity → ∀ item,
    queue.tryEnqueue item =
      (.done (.ok (Queued.id item)), { queue with channel := queue.channel.push item })
  /-- Nobody has to wait for a free place. -/
  spare : queue.isClosed = false → queue.len ≠ queue.capacity → ∀ ticket item,
    queue.enqueue ticket item = queue.tryEnqueue item
  /-- A token that has not fired makes no difference yet. -/
  unfired : ∀ ticket item,
    queue.enqueueWithCancel ticket false item = queue.enqueue ticket item
  fired : queue.policy = .wait → ∀ ticket item,
    queue.enqueueWithCancel ticket true item = (.done (.error .enqueueCancelled), queue)

theorem tryEnqueue_of_full (opened : queue.channel.closed = false)
    (full : queue.channel.isFull = true) (item : β) :
    queue.tryEnqueue item = (.done (.error (.queueFull queue.capacity)), queue) := by
  simp only [tryEnqueue, Channel.trySend, opened, full, if_true, Bool.false_eq_true, if_false,
    conclude]

theorem tryEnqueue_of_spare (opened : queue.channel.closed = false)
    (spare : queue.channel.isFull = false) (item : β) :
    queue.tryEnqueue item =
      (.done (.ok (Queued.id item)), { queue with channel := queue.channel.push item }) := by
  simp only [tryEnqueue, Channel.trySend, opened, spare, Bool.false_eq_true, if_false, conclude]

/-- Whoever does not wait is answered at once. -/
theorem tryEnqueue_done (queue : TaskQueue β) (item : β) :
    ∃ result, (queue.tryEnqueue item).1 = .done result := by
  cases shut : queue.channel.closed with
  | true => exact ⟨_, congrArg Prod.fst (tryEnqueue_of_closed item shut)⟩
  | false =>
    cases full : queue.channel.isFull with
    | true => exact ⟨_, congrArg Prod.fst (tryEnqueue_of_full shut full item)⟩
    | false => exact ⟨_, congrArg Prod.fst (tryEnqueue_of_spare shut full item)⟩

theorem enqueue_of_reject (rejects : queue.policy = .reject) (ticket : Ticket) (item : β) :
    queue.enqueue ticket item = queue.tryEnqueue item := by
  simp only [enqueue, rejects]

theorem enqueue_of_spare (spare : queue.channel.isFull = false) (ticket : Ticket) (item : β) :
    queue.enqueue ticket item = queue.tryEnqueue item := by
  cases policy : queue.policy with
  | reject => exact enqueue_of_reject policy ticket item
  | wait =>
    simp only [enqueue, policy, tryEnqueue, Channel.send, Channel.trySend, spare,
      Bool.false_eq_true, if_false]

theorem enqueueWithCancel_of_reject (rejects : queue.policy = .reject) (ticket : Ticket)
    (cancelled : Bool) (item : β) :
    queue.enqueueWithCancel ticket cancelled item = queue.tryEnqueue item := by
  simp only [enqueueWithCancel, rejects]

theorem enqueueWithCancel_unfired (queue : TaskQueue β) (ticket : Ticket) (item : β) :
    queue.enqueueWithCancel ticket false item = queue.enqueue ticket item := by
  cases policy : queue.policy with
  | reject => rw [enqueueWithCancel_of_reject policy, enqueue_of_reject policy]
  | wait => simp only [enqueueWithCancel, policy, Bool.false_eq_true, if_false]

/-- The ways agree in every state in which no more places are used than there are. -/
theorem pathsAgree (bounded : queue.len ≤ queue.capacity) : queue.PathsAgree := by
  have full_iff : queue.channel.isFull = true ↔ queue.len = queue.capacity := by
    rw [Channel.isFull, decide_eq_true_iff]
    exact ⟨Nat.le_antisymm bounded, fun used => Nat.le_of_eq used.symm⟩
  have spare_of_ne (spare : queue.len ≠ queue.capacity) : queue.channel.isFull = false :=
    Bool.eq_false_iff.mpr (mt full_iff.mp spare)
  constructor
  case rejecting =>
    intro rejects ticket cancelled item
    exact ⟨enqueue_of_reject rejects ticket item,
      enqueueWithCancel_of_reject rejects ticket cancelled item⟩
  case closed =>
    intro item
    refine ⟨fun answer => ?_, fun shut => congrArg Prod.fst (tryEnqueue_of_closed item shut)⟩
    by_contra shut
    have opened : queue.channel.closed = false := Bool.eq_false_iff.mpr shut
    cases full : queue.channel.isFull with
    | true =>
      rw [tryEnqueue_of_full opened full] at answer
      cases answer
    | false =>
      rw [tryEnqueue_of_spare opened full] at answer
      cases answer
  case full =>
    intro item
    constructor
    · intro answer
      cases shut : queue.channel.closed with
      | true =>
        rw [tryEnqueue_of_closed item shut] at answer
        cases answer
      | false =>
        refine ⟨shut, ?_⟩
        by_contra spare
        rw [tryEnqueue_of_spare shut (spare_of_ne spare)] at answer
        cases answer
    · rintro ⟨opened, used⟩
      exact congrArg Prod.fst (tryEnqueue_of_full opened (full_iff.mpr used) item)
  case roomy => exact fun opened spare => tryEnqueue_of_spare opened (spare_of_ne spare)
  case spare => exact fun _ spare => enqueue_of_spare (spare_of_ne spare)
  case unfired => exact queue.enqueueWithCancel_unfired
  case fired =>
    intro waits ticket item
    simp only [enqueueWithCancel, waits, if_true]

/-- An identifier that is returned is that of the item. -/
theorem conclude_ok {item : β} {sending : Sending} {id : WorkId}
    (gives : queue.conclude item sending = .done (.ok id)) :
    id = Queued.id item := by
  cases sending with
  | sent =>
    cases gives
    rfl
  | full | closed | waiting => cases gives

theorem tryEnqueue_ok {item : β} {id : WorkId}
    (gives : (queue.tryEnqueue item).1 = .done (.ok id)) : id = Queued.id item :=
  conclude_ok gives

theorem enqueue_ok {ticket : Ticket} {item : β} {id : WorkId}
    (gives : (queue.enqueue ticket item).1 = .done (.ok id)) : id = Queued.id item := by
  cases policy : queue.policy with
  | reject =>
    rw [enqueue_of_reject policy] at gives
    exact tryEnqueue_ok gives
  | wait =>
    simp only [enqueue, policy] at gives
    exact conclude_ok gives

theorem enqueueWithCancel_ok {ticket : Ticket} {cancelled : Bool} {item : β} {id : WorkId}
    (gives : (queue.enqueueWithCancel ticket cancelled item).1 = .done (.ok id)) :
    id = Queued.id item := by
  cases cancelled with
  | false =>
    rw [enqueueWithCancel_unfired] at gives
    exact enqueue_ok gives
  | true =>
    cases policy : queue.policy with
    | reject =>
      rw [enqueueWithCancel_of_reject policy] at gives
      exact tryEnqueue_ok gives
    | wait =>
      simp only [enqueueWithCancel, policy, if_true] at gives
      cases gives

theorem resumeWithCancel_ok {ticket : Ticket} {cancelled : Bool} {item : β} {id : WorkId}
    (gives : (queue.resumeWithCancel ticket cancelled item).1 = .done (.ok id)) :
    id = Queued.id item := by
  cases cancelled with
  | false => exact conclude_ok gives
  | true => cases gives

end TaskQueue

/-! ## What is returned -/

/-- A call that ends has put its item in and gives its identifier, or has put nothing in. -/
inductive Outcome {β : Type} [Queued β] (queue : TaskQueue β) (item : β) (next : TaskQueue β) :
    Enqueueing → Prop where
  | accepted : next.channel.buffer = queue.channel.buffer ++ [item] →
    Outcome queue item next (.done (.ok (Queued.id item)))
  | refused {failure : Failure} : next.channel.buffer = queue.channel.buffer →
    Outcome queue item next (.done (.error failure))
  | waiting : next.channel.buffer = queue.channel.buffer → Outcome queue item next .waiting

theorem Answered.outcome {β : Type} [Queued β] {queue next : TaskQueue β} {item : β}
    {progress : Enqueueing} (answered : Answered queue item progress next)
    (named : ∀ id, progress = .done (.ok id) → id = Queued.id item) :
    Outcome queue item next progress := by
  have buffer := answered.buffer
  rcases progress with (failure | id) | _
  · exact .refused (buffer.trans (List.append_nil _))
  · cases named id rfl
    exact .accepted buffer
  · exact .waiting (buffer.trans (List.append_nil _))

namespace Traffic

variable {α : Type} [Queued α]

theorem attempt_outcome (traffic : Traffic α) (route : Route) (call : Call α) :
    Outcome traffic.queue call (traffic.attempt route call).2 (traffic.attempt route call).1 := by
  refine (traffic.attempt_answered route call).outcome fun id gives => ?_
  cases route with
  | waiting => exact TaskQueue.enqueue_ok gives
  | cancellable token => exact TaskQueue.enqueueWithCancel_ok gives
  | immediate => exact TaskQueue.tryEnqueue_ok gives

theorem look_outcome (traffic : Traffic α) (waiter : Waiter α) :
    Outcome traffic.queue waiter.call (traffic.look waiter).queue
      (traffic.queue.resumeWithCancel waiter.call.number
        (traffic.callers.isFired waiter.token) waiter.call).1 :=
  (traffic.look_answered waiter).outcome fun _ => TaskQueue.resumeWithCancel_ok

/-- What a move lets a call return. -/
inductive Returns (before after : Traffic α) : Prop where
  | nothing : after.callers.returned = before.callers.returned →
    after.queue.channel.buffer = before.queue.channel.buffer → Returns before after
  | accepted (call : Call α) :
    after.callers.returned = before.callers.returned ++ [(call, .ok (Queued.id call))] →
      after.queue.channel.buffer = before.queue.channel.buffer ++ [call] → Returns before after
  | refused (call : Call α) (failure : Failure) :
    after.callers.returned = before.callers.returned ++ [(call, .error failure)] →
      after.queue.channel.buffer = before.queue.channel.buffer → Returns before after

theorem enter_returns {before : Traffic α} {queue : TaskQueue (Call α)} {waiter : Waiter α}
    {progress : Enqueueing} (outcome : Outcome before.queue waiter.call queue progress) :
    Returns before ⟨queue, before.callers.enter waiter progress⟩ := by
  cases outcome with
  | accepted buffer => exact .accepted waiter.call rfl buffer
  | @refused failure buffer => exact .refused waiter.call failure rfl buffer
  | waiting buffer => exact .nothing rfl buffer

theorem proceed_returns {before : Traffic α} {queue : TaskQueue (Call α)} {waiter : Waiter α}
    {progress : Enqueueing} (outcome : Outcome before.queue waiter.call queue progress) :
    Returns before ⟨queue, before.callers.proceed waiter progress⟩ := by
  cases outcome with
  | accepted buffer => exact .accepted waiter.call rfl buffer
  | @refused failure buffer => exact .refused waiter.call failure rfl buffer
  | waiting buffer => exact .nothing rfl buffer

theorem step_returns (traffic : Traffic α) (move : Move α) :
    Returns traffic (traffic.step move) := by
  cases move with
  | call route item =>
    simp only [step]
    split
    · exact .nothing rfl rfl
    · let waiter : Waiter α := ⟨⟨traffic.callers.issued, item⟩, route.token?⟩
      have outcome : Outcome traffic.queue waiter.call (traffic.attempt route waiter.call).2
          (traffic.attempt route waiter.call).1 := traffic.attempt_outcome route waiter.call
      exact enter_returns outcome
  | look number =>
    simp only [step]
    cases traffic.callers.find? number with
    | none => exact .nothing rfl rfl
    | some waiter => exact proceed_returns (traffic.look_outcome waiter)
  | abandon number =>
    simp only [step]
    cases traffic.callers.find? number with
    | none => exact .nothing rfl rfl
    | some waiter => exact .nothing rfl (Channel.withdraw_buffer _ _)
  | fire token => exact .nothing rfl rfl
  | cloneHandle =>
    simp only [step]
    split
    · exact .nothing rfl rfl
    · exact .nothing rfl rfl
  | dropHandle =>
    simp only [step]
    split
    · exact .nothing rfl rfl
    · exact .nothing rfl rfl

end Traffic

/-! ## The policy -/

namespace Traffic

variable {α : Type} [Queued α]

theorem attempt_policy (traffic : Traffic α) (route : Route) (call : Call α) :
    (traffic.attempt route call).2.policy = traffic.queue.policy := by
  have policy : (traffic.queue.enqueue call.number call).2.policy = traffic.queue.policy := by
    unfold TaskQueue.enqueue
    split <;> rfl
  cases route with
  | waiting => exact policy
  | cancellable token =>
    simp only [attempt, TaskQueue.enqueueWithCancel]
    split
    · rfl
    · split
      · rfl
      · exact policy
  | immediate => rfl

theorem step_policy (traffic : Traffic α) (move : Move α) :
    (traffic.step move).queue.policy = traffic.queue.policy := by
  cases move with
  | call route item =>
    simp only [step]
    split
    · rfl
    · exact traffic.attempt_policy route _
  | look number =>
    simp only [step]
    cases traffic.callers.find? number with
    | none => rfl
    | some waiter =>
      simp only [Option.elim_some, look, TaskQueue.resumeWithCancel]
      split <;> rfl
  | abandon number =>
    simp only [step]
    cases traffic.callers.find? number with
    | none => rfl
    | some waiter => rfl
  | fire token => rfl
  | cloneHandle | dropHandle =>
    simp only [step]
    split <;> rfl

/-- Under the policy of rejection every call is one that does not wait. -/
theorem step_of_reject {traffic : Traffic α} (rejects : traffic.queue.policy = .reject)
    (route : Route) (item : α) :
    traffic.step (.call route item) = traffic.step (.call .immediate item) := by
  have attempts (call : Call α) : traffic.attempt route call = traffic.queue.tryEnqueue call := by
    cases route with
    | waiting => exact TaskQueue.enqueue_of_reject rejects _ _
    | cancellable token => exact TaskQueue.enqueueWithCancel_of_reject rejects _ _ _
    | immediate => rfl
  have same : traffic.call route item = traffic.call .immediate item := by
    have immediate (call : Call α) :
        traffic.attempt .immediate call = traffic.queue.tryEnqueue call := rfl
    obtain ⟨result, ends⟩ := traffic.queue.tryEnqueue_done ⟨traffic.callers.issued, item⟩
    simp only [call, attempts, immediate, ends]
    rfl
  simp only [step, same]

end Traffic

theorem Delivery.run_policy {α : Type} [Queued α] (config : QueueConfig) (moves : List (Move α)) :
    ((create config).run moves).traffic.queue.policy = config.overflow := by
  refine @run_keeps _ _ (fun state => state.traffic.queue.policy = config.overflow)
    (fun state move policy => ?_) _ rfl moves
  rw [← policy]
  cases move with
  | traffic move => exact state.traffic.step_policy move
  | dequeue stopping =>
    exact congrArg (fun traffic => traffic.queue.policy) (state.dequeue_traffic stopping)
  | close | discard => rfl

end WorkHost
