import WorkHost.Proofs.Queue.Traffic

/-!
Contract: nobody who waits for a place is forgotten.

A caller who waits stands in line or was given a place, and is woken on leaving the
line. Closing the channel empties the line, and it stays empty (`Channel.Lined`), so
that whoever still waits then has been woken.
-/

namespace WorkHost

namespace Channel

variable {α : Type}

/-- Whoever waits stands in line or has a place; a closed channel has no line. -/
structure Lined (channel : Channel α) (numbers : List Ticket) : Prop where
  placed : channel.closed = false → ∀ number ∈ numbers,
    number ∈ channel.waiting ∨ number ∈ channel.granted
  released : channel.closed = true → channel.waiting = []

namespace Lined

variable {channel : Channel α} {numbers : List Ticket}

theorem grant (lined : channel.Lined numbers) : channel.grant.2.Lined numbers := by
  unfold Channel.grant
  split
  · exact lined
  · rename_i first rest waiting
    constructor
    · intro opened number member
      have placed := lined.placed opened number member
      simp only [waiting, List.mem_cons] at placed
      simp only [List.mem_append, List.mem_singleton]
      tauto
    · intro shut
      exact absurd (lined.released shut) (by simp [waiting])

/-- A caller leaves the line or gives up a place; the others stay where they are. -/
theorem erase (lined : channel.Lined numbers) (ticket : Ticket) :
    ({ channel with waiting := channel.waiting.erase ticket } : Channel α).Lined
        (numbers.filter (· ≠ ticket)) ∧
      ({ channel with granted := channel.granted.erase ticket } : Channel α).Lined
        (numbers.filter (· ≠ ticket)) := by
  refine ⟨⟨?_, ?_⟩, ⟨?_, lined.released⟩⟩
  · intro opened number member
    obtain ⟨old, differs⟩ := List.mem_filter.mp member
    refine (lined.placed opened number old).imp_left ?_
    exact (List.mem_erase_of_ne (by simpa using differs)).mpr
  · intro shut
    show channel.waiting.erase ticket = []
    rw [lined.released shut]
    rfl
  · intro opened number member
    obtain ⟨old, differs⟩ := List.mem_filter.mp member
    refine (lined.placed opened number old).imp_right ?_
    exact (List.mem_erase_of_ne (by simpa using differs)).mpr

theorem withdraw (lined : channel.Lined numbers) (ticket : Ticket) :
    (channel.withdraw ticket).2.Lined (numbers.filter (· ≠ ticket)) := by
  unfold Channel.withdraw
  split
  · exact (lined.erase ticket).2.grant
  · exact (lined.erase ticket).1

theorem close (channel : Channel α) (numbers : List Ticket) :
    channel.close.2.Lined numbers :=
  ⟨nofun, fun _ => rfl⟩

theorem receive (lined : channel.Lined numbers) {answer : Receiving α} {woken : Option Ticket}
    {next : Channel α} (received : channel.receive = (answer, woken, next)) :
    next.Lined numbers := by
  unfold Channel.receive at received
  split at received
  · rename_i first rest buffer
    have popped : ({ channel with buffer := rest } : Channel α).Lined numbers :=
      ⟨lined.placed, lined.released⟩
    simp only [Prod.mk.injEq] at received
    exact received.2.2 ▸ popped.grant
  · split at received <;> simp only [Prod.mk.injEq] at received
    · exact received.2.2 ▸ lined
    · exact received.2.2 ▸ lined

end Lined

end Channel

namespace Enqueueing

/-- Who waits after the first answer to a call. -/
def joined (number : Ticket) (numbers : List Ticket) : Enqueueing → List Ticket
  | .done _ => numbers
  | .waiting => numbers ++ [number]

/-- Who waits after another answer to a call. -/
def left (number : Ticket) (numbers : List Ticket) : Enqueueing → List Ticket
  | .done _ => numbers.filter (· ≠ number)
  | .waiting => numbers

end Enqueueing

namespace TaskQueue

variable {β : Type} [Queued β] {queue : TaskQueue β} {numbers : List Ticket}

theorem tryEnqueue_lined (lined : queue.channel.Lined numbers) (ticket : Ticket) (item : β) :
    (queue.tryEnqueue item).2.channel.Lined
      ((queue.tryEnqueue item).1.joined ticket numbers) := by
  unfold tryEnqueue Channel.trySend
  by_cases shut : queue.channel.closed = true
  · rw [if_pos shut]
    exact lined
  · rw [if_neg shut]
    by_cases full : queue.channel.isFull = true
    · rw [if_pos full]
      exact lined
    · rw [if_neg full]
      exact ⟨lined.placed, lined.released⟩

theorem enqueue_lined (lined : queue.channel.Lined numbers) (ticket : Ticket) (item : β) :
    (queue.enqueue ticket item).2.channel.Lined
      ((queue.enqueue ticket item).1.joined ticket numbers) := by
  unfold enqueue
  cases queue.policy with
  | reject => exact tryEnqueue_lined lined ticket item
  | wait =>
    unfold Channel.send
    by_cases shut : queue.channel.closed = true
    · rw [if_pos shut]
      exact lined
    · rw [if_neg shut]
      by_cases full : queue.channel.isFull = true
      · rw [if_pos full]
        refine ⟨fun opened number member => ?_, fun closed => absurd closed shut⟩
        rcases List.mem_append.mp member with old | new
        · exact (lined.placed opened number old).imp_left (List.mem_append_left _)
        · exact Or.inl (List.mem_append_right _ new)
      · rw [if_neg full]
        exact ⟨lined.placed, lined.released⟩

theorem enqueueWithCancel_lined (lined : queue.channel.Lined numbers) (ticket : Ticket)
    (cancelled : Bool) (item : β) :
    (queue.enqueueWithCancel ticket cancelled item).2.channel.Lined
      ((queue.enqueueWithCancel ticket cancelled item).1.joined ticket numbers) := by
  unfold enqueueWithCancel
  cases queue.policy with
  | reject => exact tryEnqueue_lined lined ticket item
  | wait =>
    cases cancelled with
    | true => exact lined
    | false => exact enqueue_lined lined ticket item

theorem resumeWithCancel_lined (lined : queue.channel.Lined numbers) (ticket : Ticket)
    (cancelled : Bool) (item : β) :
    (queue.resumeWithCancel ticket cancelled item).2.2.channel.Lined
      ((queue.resumeWithCancel ticket cancelled item).1.left ticket numbers) := by
  unfold resumeWithCancel
  cases cancelled with
  | true => exact lined.withdraw ticket
  | false =>
    unfold resume Channel.resume
    by_cases shut : queue.channel.closed = true
    · rw [if_pos shut]
      exact lined.withdraw ticket
    · rw [if_neg shut]
      by_cases placed : queue.channel.granted.contains ticket = true
      · rw [if_pos placed]
        exact ⟨(lined.erase ticket).2.placed, lined.released⟩
      · rw [if_neg placed]
        exact lined

end TaskQueue

namespace Callers

variable {α : Type}

/-- The numbers of the calls that wait. -/
def line (callers : Callers α) : List Ticket :=
  callers.waiters.map fun waiter => waiter.call.number

theorem line_enter (callers : Callers α) (waiter : Waiter α) (progress : Enqueueing) :
    (callers.enter waiter progress).line = progress.joined waiter.call.number callers.line := by
  cases progress with
  | done result => rfl
  | waiting => simp [enter, line, Enqueueing.joined]

theorem line_leave (callers : Callers α) (number : Ticket) :
    (callers.leave number).line = callers.line.filter (· ≠ number) := by
  unfold line leave
  rw [List.filter_map]
  rfl

theorem line_proceed (callers : Callers α) (waiter : Waiter α) (progress : Enqueueing) :
    (callers.proceed waiter progress).line = progress.left waiter.call.number callers.line := by
  cases progress with
  | done result => exact callers.line_leave waiter.call.number
  | waiting => rfl

end Callers

namespace Traffic

variable {α : Type}

def Lined (traffic : Traffic α) : Prop := traffic.queue.channel.Lined traffic.callers.line

theorem step_lined [Queued α] {traffic : Traffic α} (lined : traffic.Lined) (move : Move α) :
    (traffic.step move).Lined := by
  cases move with
  | call route item =>
    simp only [step]
    split
    · exact lined
    · simp only [Lined, call, Callers.line_enter]
      cases route with
      | waiting => exact TaskQueue.enqueue_lined lined _ _
      | cancellable token => exact TaskQueue.enqueueWithCancel_lined lined _ _ _
      | immediate => exact TaskQueue.tryEnqueue_lined lined _ _
  | look number =>
    simp only [step]
    cases traffic.callers.find? number with
    | none => exact lined
    | some waiter =>
      simp only [Option.elim_some, Lined, look, Callers.line_proceed]
      exact TaskQueue.resumeWithCancel_lined lined _ _ _
  | abandon number =>
    simp only [step]
    cases traffic.callers.find? number with
    | none => exact lined
    | some waiter =>
      simp only [Option.elim_some, Lined, abandon, Callers.line_leave]
      exact Channel.Lined.withdraw lined _
  | fire token => exact lined
  | cloneHandle =>
    simp only [step]
    split
    · exact lined
    · exact ⟨lined.placed, lined.released⟩
  | dropHandle =>
    simp only [step]
    split
    · exact lined
    · exact ⟨lined.placed, lined.released⟩

end Traffic

end WorkHost
