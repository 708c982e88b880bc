import WorkHost.Proofs.Queue.Permits
import WorkHost.Proofs.Queue.Waking

/-!
Contract: whoever waits does so in the order of arrival.

Calls are numbered in the order in which they are made. Those that wait are, in that order,
first the ones that have been given a place and have not used it, then the ones in line
(`Traffic.Orderly`). Giving a place to the head of the line changes nothing in that list, a
new call joins it at the end, and a call that ends leaves it.
-/

namespace WorkHost

theorem erase_eq_filter_ne {tickets : List Ticket} (distinct : tickets.Nodup) (ticket : Ticket) :
    tickets.erase ticket = tickets.filter (· ≠ ticket) := by
  rw [distinct.erase_eq_filter]
  refine List.filter_congr fun other _ => ?_
  rw [Bool.eq_iff_iff]
  simp

namespace Channel

variable {α : Type}

/-- Who waits: first those who have been given a place, then those in line. -/
def lineup (channel : Channel α) : List Ticket := channel.granted ++ channel.waiting

theorem grant_lineup (channel : Channel α) : channel.grant.2.lineup = channel.lineup := by
  unfold grant
  split
  · rfl
  · rename_i ticket rest waiting
    simp [lineup, waiting]

theorem receive_lineup (channel : Channel α) :
    channel.receive.2.2.lineup = channel.lineup := by
  unfold receive
  split
  · exact grant_lineup _
  · split <;> rfl

theorem withdraw_lineup {channel : Channel α} (distinct : channel.lineup.Nodup)
    (ticket : Ticket) :
    (channel.withdraw ticket).2.lineup = channel.lineup.filter (· ≠ ticket) := by
  rw [← erase_eq_filter_ne distinct]
  unfold withdraw lineup
  rw [List.erase_append]
  by_cases placed : ticket ∈ channel.granted
  · rw [if_pos (by simpa using placed), if_pos placed]
    exact grant_lineup _
  · rw [if_neg (by simpa using placed), if_neg placed]

end Channel

namespace TaskQueue

variable {β : Type} [Queued β] (queue : TaskQueue β) (ticket : Ticket) (item : β)

theorem tryEnqueue_lineup :
    (queue.tryEnqueue item).2.channel.lineup =
      (queue.tryEnqueue item).1.joined ticket queue.channel.lineup := by
  unfold tryEnqueue Channel.trySend
  by_cases shut : queue.channel.closed = true
  · rw [if_pos shut]
    rfl
  · rw [if_neg shut]
    by_cases full : queue.channel.isFull = true
    · rw [if_pos full]
      rfl
    · rw [if_neg full]
      rfl

theorem enqueue_lineup :
    (queue.enqueue ticket item).2.channel.lineup =
      (queue.enqueue ticket item).1.joined ticket queue.channel.lineup := by
  unfold enqueue
  cases queue.policy with
  | reject => exact queue.tryEnqueue_lineup ticket item
  | wait =>
    unfold Channel.send
    by_cases shut : queue.channel.closed = true
    · rw [if_pos shut]
      rfl
    · rw [if_neg shut]
      by_cases full : queue.channel.isFull = true
      · rw [if_pos full]
        exact (List.append_assoc _ _ _).symm
      · rw [if_neg full]
        rfl

theorem enqueueWithCancel_lineup (cancelled : Bool) :
    (queue.enqueueWithCancel ticket cancelled item).2.channel.lineup =
      (queue.enqueueWithCancel ticket cancelled item).1.joined ticket queue.channel.lineup := by
  unfold enqueueWithCancel
  cases queue.policy with
  | reject => exact queue.tryEnqueue_lineup ticket item
  | wait =>
    cases cancelled with
    | true => rfl
    | false => exact queue.enqueue_lineup ticket item

variable {queue}

theorem resumeWithCancel_lineup (distinct : queue.channel.lineup.Nodup) (cancelled : Bool) :
    (queue.resumeWithCancel ticket cancelled item).2.2.channel.lineup =
      (queue.resumeWithCancel ticket cancelled item).1.left ticket queue.channel.lineup := by
  unfold resumeWithCancel
  cases cancelled with
  | true => exact Channel.withdraw_lineup distinct ticket
  | false =>
    unfold resume Channel.resume
    by_cases shut : queue.channel.closed = true
    · rw [if_pos shut]
      exact Channel.withdraw_lineup distinct ticket
    · rw [if_neg shut]
      by_cases placed : queue.channel.granted.contains ticket = true
      · rw [if_pos placed]
        have isPlaced : ticket ∈ queue.channel.granted := by simpa using placed
        have outside : ticket ∉ queue.channel.waiting := fun inside =>
          (List.nodup_append.mp distinct).2.2 ticket isPlaced ticket inside rfl
        have apart := (List.nodup_append.mp distinct).1
        show queue.channel.granted.erase ticket ++ queue.channel.waiting =
          (queue.channel.granted ++ queue.channel.waiting).filter (· ≠ ticket)
        rw [List.filter_append, erase_eq_filter_ne apart]
        refine congrArg _ (List.filter_eq_self.mpr fun other member => ?_).symm
        exact decide_eq_true fun same => outside (same ▸ member)
      · rw [if_neg placed]
        rfl

end TaskQueue

namespace Traffic

variable {α : Type}

/-- Those who wait, with a place or in line, do so in the order of their arrival. -/
structure Orderly (channel : Channel (Call α)) (callers : Callers α) : Prop where
  arrived : callers.line.Pairwise (· < ·)
  lineup : channel.lineup.Sublist callers.line

namespace Orderly

variable {channel : Channel (Call α)} {callers : Callers α}

theorem lineup_sorted (orderly : Orderly channel callers) :
    channel.lineup.Pairwise (· < ·) :=
  orderly.arrived.sublist orderly.lineup

theorem lineup_nodup (orderly : Orderly channel callers) : channel.lineup.Nodup :=
  orderly.lineup_sorted.imp Nat.ne_of_lt

theorem receive (orderly : Orderly channel callers) : Orderly channel.receive.2.2 callers :=
  ⟨orderly.arrived, channel.receive_lineup ▸ orderly.lineup⟩

theorem close (orderly : Orderly channel callers) : Orderly channel.close.2 callers := by
  refine ⟨orderly.arrived, List.Sublist.trans ?_ orderly.lineup⟩
  exact List.Sublist.append_left (List.nil_sublist channel.waiting) channel.granted

/-- A new call is the last one to arrive. -/
theorem enter (orderly : Orderly channel callers) (numbered : callers.Numbered)
    {waiter : Waiter α} (isNew : waiter.call.number = callers.issued) {progress : Enqueueing}
    {next : Channel (Call α)}
    (joined : next.lineup = progress.joined waiter.call.number channel.lineup) :
    Orderly next (callers.enter waiter progress) := by
  constructor
  · rw [Callers.line_enter]
    cases progress with
    | done result => exact orderly.arrived
    | waiting =>
      refine List.pairwise_append.mpr ⟨orderly.arrived, List.pairwise_singleton _ _, ?_⟩
      intro number member last isLast
      rw [List.mem_singleton.mp isLast, isNew]
      exact numbered.below number (List.mem_append_right _ member)
  · rw [Callers.line_enter, joined]
    cases progress with
    | done result => exact orderly.lineup
    | waiting => exact orderly.lineup.append (List.Sublist.refl _)

theorem leave (orderly : Orderly channel callers) (number : Ticket) {next : Channel (Call α)}
    (left : next.lineup = channel.lineup.filter (· ≠ number)) :
    Orderly next (callers.leave number) := by
  constructor
  · rw [Callers.line_leave]
    exact orderly.arrived.filter _
  · rw [Callers.line_leave, left]
    exact orderly.lineup.filter _

theorem proceed (orderly : Orderly channel callers) (waiter : Waiter α)
    {progress : Enqueueing} {next : Channel (Call α)}
    (left : next.lineup = progress.left waiter.call.number channel.lineup) :
    Orderly next (callers.proceed waiter progress) := by
  cases progress with
  | done result =>
    obtain ⟨arrived, lineup⟩ := orderly.leave waiter.call.number left
    exact ⟨arrived, lineup⟩
  | waiting =>
    refine ⟨orderly.arrived, ?_⟩
    rw [left]
    exact orderly.lineup

end Orderly

variable [Queued α]

theorem attempt_lineup (traffic : Traffic α) (route : Route) (call : Call α) :
    (traffic.attempt route call).2.channel.lineup =
      (traffic.attempt route call).1.joined call.number traffic.queue.channel.lineup := by
  cases route with
  | waiting => exact traffic.queue.enqueue_lineup call.number call
  | cancellable token => exact traffic.queue.enqueueWithCancel_lineup call.number call _
  | immediate => exact traffic.queue.tryEnqueue_lineup call.number call

theorem step_orderly {traffic : Traffic α} (numbered : traffic.callers.Numbered)
    (orderly : Orderly traffic.queue.channel traffic.callers) (move : Move α) :
    Orderly (traffic.step move).queue.channel (traffic.step move).callers := by
  cases move with
  | call route item =>
    simp only [step]
    split
    · exact orderly
    · exact orderly.enter numbered rfl (traffic.attempt_lineup route _)
  | look number =>
    simp only [step]
    cases traffic.callers.find? number with
    | none => exact orderly
    | some waiter =>
      exact orderly.proceed waiter
        (TaskQueue.resumeWithCancel_lineup _ _ orderly.lineup_nodup _)
  | abandon number =>
    simp only [step]
    cases traffic.callers.find? number with
    | none => exact orderly
    | some waiter =>
      exact orderly.leave _ (Channel.withdraw_lineup orderly.lineup_nodup _)
  | fire token => exact ⟨orderly.arrived, orderly.lineup⟩
  | cloneHandle =>
    simp only [step]
    split
    · exact orderly
    · exact ⟨orderly.arrived, orderly.lineup⟩
  | dropHandle =>
    simp only [step]
    split
    · exact orderly
    · exact ⟨orderly.arrived, orderly.lineup⟩

end Traffic

end WorkHost
