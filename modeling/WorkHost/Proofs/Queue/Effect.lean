import WorkHost.Queue.TaskQueue

/-!
Contract: what the operations of a channel and of a task queue do to the buffer, and
what they leave alone.

`Channel.receive_item` and `Channel.receive_none` say what receiving does, and
`Channel.closeAndDiscard_spec` what discarding does. `Answered` is what every attempt to
enqueue does: it puts its item at the end of the buffer exactly if it succeeds, it
succeeds only while the queue is open, and it neither closes the queue nor makes a
handle. The last part says how a closed queue answers.
-/

namespace WorkHost

namespace Channel

variable {α : Type}

@[simp]
theorem grant_closed (channel : Channel α) : channel.grant.2.closed = channel.closed := by
  unfold grant
  split <;> rfl

@[simp]
theorem grant_handles (channel : Channel α) : channel.grant.2.handles = channel.handles := by
  unfold grant
  split <;> rfl

@[simp]
theorem withdraw_buffer (channel : Channel α) (ticket : Ticket) :
    (channel.withdraw ticket).2.buffer = channel.buffer := by
  unfold withdraw
  split
  · rw [grant_buffer]
  · rfl

@[simp]
theorem withdraw_closed (channel : Channel α) (ticket : Ticket) :
    (channel.withdraw ticket).2.closed = channel.closed := by
  unfold withdraw
  split
  · rw [grant_closed]
  · rfl

@[simp]
theorem withdraw_handles (channel : Channel α) (ticket : Ticket) :
    (channel.withdraw ticket).2.handles = channel.handles := by
  unfold withdraw
  split
  · rw [grant_handles]
  · rfl

/-- Nothing is buffered and no handle is left to put anything in. -/
def Deserted (channel : Channel α) : Prop :=
  channel.buffer = [] ∧ channel.handles = 0

/-! ## Receiving -/

/-- What is received is the oldest item. -/
theorem receive_item {channel next : Channel α} {item : α} {woken : Option Ticket}
    (received : channel.receive = (.item item, woken, next)) :
    channel.buffer = item :: next.buffer ∧ next.closed = channel.closed ∧
      next.handles = channel.handles := by
  unfold receive at received
  split at received
  · rename_i first rest buffer
    simp only [Prod.mk.injEq, Receiving.item.injEq] at received
    obtain ⟨rfl, _, rfl⟩ := received
    simp [buffer]
  · split at received <;> simp at received

/-- Nothing is received from an empty buffer only. -/
theorem receive_none {channel next : Channel α} {answer : Receiving α} {woken : Option Ticket}
    (received : channel.receive = (answer, woken, next)) (nothing : ∀ item, answer ≠ .item item) :
    channel.buffer = [] ∧ next = channel := by
  unfold receive at received
  split at received
  · rename_i first rest buffer
    simp only [Prod.mk.injEq] at received
    exact absurd received.1.symm (nothing first)
  · rename_i buffer
    split at received <;> simp only [Prod.mk.injEq] at received
    · exact ⟨buffer, received.2.2.symm⟩
    · exact ⟨buffer, received.2.2.symm⟩

/-- An open channel ends when its last handle is gone. -/
theorem handles_of_receive_ended {channel next : Channel α} {woken : Option Ticket}
    (received : channel.receive = (.ended, woken, next)) (opened : channel.closed = false) :
    channel.handles = 0 := by
  unfold receive at received
  split at received
  · simp at received
  · split at received
    · rename_i condition
      simpa [opened] using condition
    · simp at received

@[simp]
theorem receive_closed (channel : Channel α) : channel.receive.2.2.closed = channel.closed := by
  unfold receive
  split
  · exact grant_closed _
  · split <;> rfl

/-- Whoever is not told to stop gets the oldest item. -/
theorem receive_of_buffer {channel : Channel α} {item : α} {rest : List α}
    (buffer : channel.buffer = item :: rest) :
    ∃ woken next, channel.receive = (.item item, woken, next) ∧ next.buffer = rest := by
  unfold receive
  rw [buffer]
  exact ⟨_, _, rfl, grant_buffer _⟩

/-- Taking everything leaves nothing behind. -/
theorem receiveAll_spec (channel : Channel α) :
    channel.receiveAll.1 = channel.buffer ∧ channel.receiveAll.2.buffer = [] ∧
      channel.receiveAll.2.closed = channel.closed := by
  induction size : channel.buffer.length generalizing channel with
  | zero =>
    have empty : channel.buffer = [] := List.length_eq_zero_iff.mp size
    rw [receiveAll]
    split
    · rename_i item woken next received
      have buffer := (receive_item received).1
      simp [empty] at buffer
    · rename_i answer woken next nothing received
      obtain ⟨_, rfl⟩ := receive_none received nothing
      exact ⟨empty.symm, empty, rfl⟩
  | succ count inductionHypothesis =>
    rw [receiveAll]
    split
    · rename_i item woken next received
      obtain ⟨buffer, closed, _⟩ := receive_item received
      have shorter : next.buffer.length = count := by
        rw [buffer, List.length_cons] at size
        omega
      obtain ⟨items, left, still⟩ := inductionHypothesis next shorter
      refine ⟨?_, left, still.trans closed⟩
      exact (congrArg (item :: ·) items).trans buffer.symm
    · rename_i answer woken next nothing received
      have empty := (receive_none received nothing).1
      simp [empty] at size

/-- All that was buffered is discarded, and nothing is taken in any more. -/
theorem closeAndDiscard_spec (channel : Channel α) :
    channel.closeAndDiscard.1 = channel.buffer ∧ channel.closeAndDiscard.2.buffer = [] ∧
      channel.closeAndDiscard.2.closed = true :=
  channel.close.2.receiveAll_spec

end Channel

/-- The items that an attempt has put into the queue. -/
def Enqueueing.admitted {β : Type} (item : β) : Enqueueing → List β
  | .done (.ok _) => [item]
  | _ => []

/-- What an attempt to enqueue an item does to a queue. -/
structure Answered {β : Type} (queue : TaskQueue β) (item : β) (progress : Enqueueing)
    (next : TaskQueue β) : Prop where
  buffer : next.channel.buffer = queue.channel.buffer ++ progress.admitted item
  closed : next.channel.closed = queue.channel.closed
  handles : next.channel.handles = queue.channel.handles
  opened : progress.admitted item ≠ [] → queue.channel.closed = false

namespace TaskQueue

variable {β : Type} [Queued β] (queue : TaskQueue β) (ticket : Ticket) (item : β)

theorem tryEnqueue_answered :
    Answered queue item (queue.tryEnqueue item).1 (queue.tryEnqueue item).2 := by
  unfold tryEnqueue Channel.trySend
  cases shut : queue.channel.closed with
  | true => constructor <;> simp [conclude, Enqueueing.admitted, shut]
  | false =>
    cases full : queue.channel.isFull <;>
      constructor <;> simp [conclude, Enqueueing.admitted, Channel.push, shut]

theorem enqueue_answered :
    Answered queue item (queue.enqueue ticket item).1 (queue.enqueue ticket item).2 := by
  unfold enqueue
  cases queue.policy with
  | reject => exact queue.tryEnqueue_answered item
  | wait =>
    unfold Channel.send
    cases shut : queue.channel.closed with
    | true => constructor <;> simp [conclude, Enqueueing.admitted, shut]
    | false =>
      cases full : queue.channel.isFull <;>
        constructor <;> simp [conclude, Enqueueing.admitted, Channel.push, shut]

theorem enqueueWithCancel_answered (cancelled : Bool) :
    Answered queue item (queue.enqueueWithCancel ticket cancelled item).1
      (queue.enqueueWithCancel ticket cancelled item).2 := by
  unfold enqueueWithCancel
  cases queue.policy with
  | reject => exact queue.tryEnqueue_answered item
  | wait =>
    cases cancelled with
    | true => constructor <;> simp [Enqueueing.admitted]
    | false => exact queue.enqueue_answered ticket item

theorem resume_answered :
    Answered queue item (queue.resume ticket item).1 (queue.resume ticket item).2 := by
  unfold resume Channel.resume
  cases shut : queue.channel.closed with
  | true => constructor <;> simp [conclude, Enqueueing.admitted, shut]
  | false =>
    cases granted : queue.channel.granted.contains ticket <;>
      constructor <;> simp [conclude, Enqueueing.admitted, Channel.push, shut]

theorem resumeWithCancel_answered (cancelled : Bool) :
    Answered queue item (queue.resumeWithCancel ticket cancelled item).1
      (queue.resumeWithCancel ticket cancelled item).2.2 := by
  unfold resumeWithCancel
  cases cancelled with
  | true => constructor <;> simp [Enqueueing.admitted, withdraw]
  | false => exact queue.resume_answered ticket item

/-! ## A closed queue -/

variable {queue}

theorem tryEnqueue_of_closed (shut : queue.channel.closed = true) :
    queue.tryEnqueue item = (.done (.error .queueClosed), queue) := by
  simp [tryEnqueue, Channel.trySend, conclude, shut]

theorem enqueue_of_closed (shut : queue.channel.closed = true) :
    queue.enqueue ticket item = (.done (.error .queueClosed), queue) := by
  unfold enqueue
  cases policy : queue.policy with
  | reject => exact tryEnqueue_of_closed item shut
  | wait => simp [Channel.send, conclude, shut, ← policy]

/-- Under the policy of rejection the token is not looked at. -/
theorem enqueueWithCancel_of_closed {cancelled : Bool} (shut : queue.channel.closed = true)
    (heard : cancelled = false ∨ queue.policy = .reject) :
    queue.enqueueWithCancel ticket cancelled item = (.done (.error .queueClosed), queue) := by
  unfold enqueueWithCancel
  cases policy : queue.policy with
  | reject => exact tryEnqueue_of_closed item shut
  | wait =>
    have calm : cancelled = false := by simpa [policy] using heard
    rw [calm]
    exact enqueue_of_closed ticket item shut

theorem resumeWithCancel_of_closed (shut : queue.channel.closed = true) :
    (queue.resumeWithCancel ticket false item).1 = .done (.error .queueClosed) := by
  simp [resumeWithCancel, resume, Channel.resume, conclude, shut]

end TaskQueue

end WorkHost
