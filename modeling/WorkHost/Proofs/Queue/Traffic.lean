import Mathlib.Data.List.Nodup
import WorkHost.Proofs.Queue.Effect

/-!
Contract: a task queue among its callers, under any interleaving.

Any number of calls may be under way. A call is made through a handle; while it waits
it may look again, be given up or have its token fired. These moves come in any order.
Every call has a number of its own, which no operation of the queue looks at, so that
calls are told apart even if their items carry the same identifier.

The main statements are the effect of a move on the buffer (`step_effect`) and what
every move keeps: calls are numbered apart (`step_numbered`), nobody waits without a
handle (`step_staffed`), and without handles nothing is put in (`step_deserted`).
-/

namespace WorkHost

/-- One use of a way to enqueue. -/
structure Call (α : Type) where
  number : Ticket
  item : α
deriving DecidableEq, Repr

instance {α : Type} [Queued α] : Queued (Call α) where
  id call := Queued.id call.item
  kind call := Queued.kind call.item
  dependency call := Queued.dependency call.item

/-- A call that waits for a place. -/
structure Waiter (α : Type) where
  call : Call α
  /-- The token that makes it give up. -/
  token : Option Nat
deriving DecidableEq, Repr

/-- The ways to enqueue. -/
inductive Route where
  | waiting
  | cancellable (token : Nat)
  | immediate
deriving DecidableEq, Repr

def Route.token? : Route → Option Nat
  | .cancellable token => some token
  | _ => none

structure Callers (α : Type) where
  waiters : List (Waiter α)
  firedTokens : List Nat
  /-- How many calls were made. -/
  issued : Nat
  /-- The calls that have returned, with what they gave, in the order of their return. -/
  returned : List (Call α × Except Failure WorkId)
deriving Repr

structure Traffic (α : Type) where
  queue : TaskQueue (Call α)
  callers : Callers α
deriving Repr

inductive Traffic.Move (α : Type) where
  | call (route : Route) (item : α)
  /-- A waiting call looks again. -/
  | look (number : Ticket)
  /-- The caller drops a waiting call. -/
  | abandon (number : Ticket)
  | fire (token : Nat)
  | cloneHandle
  | dropHandle
deriving Repr

namespace Callers

variable {α : Type}

def fresh : Callers α := ⟨[], [], 0, []⟩

def isFired (callers : Callers α) (token : Option Nat) : Bool :=
  token.any callers.firedTokens.contains

def find? (callers : Callers α) (number : Ticket) : Option (Waiter α) :=
  callers.waiters.find? fun waiter => waiter.call.number = number

def leave (callers : Callers α) (number : Ticket) : Callers α :=
  { callers with waiters := callers.waiters.filter fun waiter => waiter.call.number ≠ number }

def finish (callers : Callers α) (call : Call α) (result : Except Failure WorkId) : Callers α :=
  { callers with returned := callers.returned ++ [(call, result)] }

/-- A call was made and has got its first answer. -/
def enter (callers : Callers α) (waiter : Waiter α) (progress : Enqueueing) : Callers α :=
  let callers := { callers with issued := callers.issued + 1 }
  match progress with
  | .done result => callers.finish waiter.call result
  | .waiting => { callers with waiters := callers.waiters ++ [waiter] }

/-- A waiting call has got another answer. -/
def proceed (callers : Callers α) (waiter : Waiter α) : Enqueueing → Callers α
  | .done result => (callers.leave waiter.call.number).finish waiter.call result
  | .waiting => callers

/-- The calls that have returned an identifier. -/
def accepted (callers : Callers α) : List (Call α) :=
  callers.returned.flatMap fun entry => Enqueueing.admitted entry.1 (.done entry.2)

theorem mem_admitted {progress : Enqueueing} {call other : Call α}
    (member : other ∈ progress.admitted call) : other = call := by
  rcases progress with (_ | id) | _
  · cases member
  · exact List.mem_singleton.mp member
  · cases member

@[simp]
theorem accepted_finish (callers : Callers α) (call : Call α) (result : Except Failure WorkId) :
    (callers.finish call result).accepted =
      callers.accepted ++ Enqueueing.admitted call (.done result) := by
  simp [accepted, finish]

theorem accepted_enter (callers : Callers α) (waiter : Waiter α) (progress : Enqueueing) :
    (callers.enter waiter progress).accepted =
      callers.accepted ++ progress.admitted waiter.call := by
  cases progress with
  | done result => exact accepted_finish _ _ _
  | waiting => exact (List.append_nil _).symm

theorem accepted_proceed (callers : Callers α) (waiter : Waiter α) (progress : Enqueueing) :
    (callers.proceed waiter progress).accepted =
      callers.accepted ++ progress.admitted waiter.call := by
  cases progress with
  | done result => exact accepted_finish _ _ _
  | waiting => exact (List.append_nil _).symm

@[simp]
theorem issued_enter (callers : Callers α) (waiter : Waiter α) (progress : Enqueueing) :
    (callers.enter waiter progress).issued = callers.issued + 1 := by
  cases progress <;> rfl

@[simp]
theorem issued_proceed (callers : Callers α) (waiter : Waiter α) (progress : Enqueueing) :
    (callers.proceed waiter progress).issued = callers.issued := by
  cases progress <;> rfl

/-! ## Numbers -/

/-- The numbers of the calls that have returned and of those that wait. -/
def numbers (callers : Callers α) : List Ticket :=
  callers.returned.map (fun entry => entry.1.number) ++
    callers.waiters.map (fun waiter => waiter.call.number)

/-- No two calls share a number, and the next number is new. -/
structure Numbered (callers : Callers α) : Prop where
  distinct : callers.numbers.Nodup
  below : ∀ number ∈ callers.numbers, number < callers.issued

theorem mem_accepted {callers : Callers α} {call : Call α} :
    call ∈ callers.accepted ↔ ∃ id, (call, .ok id) ∈ callers.returned := by
  constructor
  · intro member
    obtain ⟨⟨other, result⟩, returned, inside⟩ := List.mem_flatMap.mp member
    cases result with
    | ok id =>
      rw [List.mem_singleton.mp inside]
      exact ⟨id, returned⟩
    | error failure => cases inside
  · rintro ⟨id, returned⟩
    exact List.mem_flatMap.mpr ⟨_, returned, List.mem_singleton_self call⟩

theorem length_accepted (callers : Callers α) :
    callers.accepted.length = callers.returned.countP fun entry => entry.2.isOk := by
  unfold accepted
  induction callers.returned with
  | nil => rfl
  | cons entry rest inductionHypothesis =>
    obtain ⟨call, result⟩ := entry
    rw [List.flatMap_cons, List.length_append, inductionHypothesis]
    cases result with
    | ok id =>
      rw [List.countP_cons_of_pos rfl]
      exact Nat.add_comm _ _
    | error failure =>
      rw [List.countP_cons_of_neg Bool.false_ne_true]
      exact Nat.zero_add _

/-- Calls that have returned have numbers of their own. -/
theorem returned_eq {callers : Callers α} (numbered : callers.Numbered)
    {first second : Call α × Except Failure WorkId} (firstReturned : first ∈ callers.returned)
    (secondReturned : second ∈ callers.returned) (same : first.1.number = second.1.number) :
    first = second :=
  List.inj_on_of_nodup_map (List.nodup_append.mp numbered.distinct).1 firstReturned
    secondReturned same

theorem accepted_sublist (callers : Callers α) :
    (callers.accepted.map Call.number).Sublist
      (callers.returned.map fun entry => entry.1.number) := by
  unfold accepted
  induction callers.returned with
  | nil => exact List.Sublist.refl _
  | cons entry rest inductionHypothesis =>
    obtain ⟨call, result⟩ := entry
    cases result with
    | ok id => exact inductionHypothesis.cons_cons _
    | error failure => exact inductionHypothesis.cons _

theorem accepted_nodup {callers : Callers α} (numbered : callers.Numbered) :
    (callers.accepted.map Call.number).Nodup :=
  callers.accepted_sublist.nodup (List.nodup_append.mp numbered.distinct).1

theorem fresh_numbered : (fresh : Callers α).Numbered :=
  ⟨List.nodup_nil, by simp [fresh, numbers]⟩

theorem mem_waiters_of_find? {callers : Callers α} {number : Ticket} {waiter : Waiter α}
    (found : callers.find? number = some waiter) : waiter ∈ callers.waiters :=
  List.mem_of_find?_eq_some found

theorem find?_eq_some {callers : Callers α} (numbered : callers.Numbered) {waiter : Waiter α}
    (member : waiter ∈ callers.waiters) : callers.find? waiter.call.number = some waiter := by
  have apart : (callers.waiters.map fun waiter => waiter.call.number).Nodup :=
    (List.nodup_append.mp numbered.distinct).2.1
  cases found : callers.find? waiter.call.number with
  | none =>
    have unlike := List.find?_eq_none.mp found waiter member
    simp at unlike
  | some other =>
    have same : other.call.number = waiter.call.number := by
      simpa using List.find?_some found
    rw [List.inj_on_of_nodup_map apart (mem_waiters_of_find? found) member same]

theorem numbers_leave_subset (callers : Callers α) (number : Ticket) :
    (callers.leave number).numbers.Sublist callers.numbers := by
  apply List.Sublist.append_left
  exact (List.filter_sublist).map _

theorem leave_numbered {callers : Callers α} (numbered : callers.Numbered) (number : Ticket) :
    (callers.leave number).Numbered where
  distinct := (callers.numbers_leave_subset number).nodup numbered.distinct
  below other member :=
    numbered.below other ((callers.numbers_leave_subset number).subset member)

/-- A number that nobody has may return. -/
theorem finish_numbered {callers : Callers α} (numbered : callers.Numbered) (call : Call α)
    (result : Except Failure WorkId) (isNew : call.number ∉ callers.numbers)
    (below : call.number < callers.issued) : (callers.finish call result).Numbered := by
  have order : (callers.finish call result).numbers.Perm (call.number :: callers.numbers) := by
    simp only [numbers, finish, List.map_append, List.map_cons, List.map_nil, List.append_assoc,
      List.singleton_append]
    exact List.perm_middle
  refine ⟨order.nodup_iff.mpr (List.nodup_cons.mpr ⟨isNew, numbered.distinct⟩), ?_⟩
  intro number member
  rcases List.mem_cons.mp (order.subset member) with same | old
  · exact same ▸ below
  · exact numbered.below number old

theorem enter_numbered {callers : Callers α} (numbered : callers.Numbered) (waiter : Waiter α)
    (progress : Enqueueing) (next : waiter.call.number = callers.issued) :
    (callers.enter waiter progress).Numbered := by
  have isNew : waiter.call.number ∉ callers.numbers := by
    intro member
    have below := numbered.below _ member
    rw [next] at below
    exact Nat.lt_irrefl _ below
  have issued : ({ callers with issued := callers.issued + 1 } : Callers α).Numbered :=
    ⟨numbered.distinct, fun number member => Nat.lt_succ_of_lt (numbered.below number member)⟩
  cases progress with
  | done result => exact finish_numbered issued _ _ isNew (by simp [next])
  | waiting =>
    have order : (callers.enter waiter .waiting).numbers =
        callers.numbers ++ [waiter.call.number] := by
      simp [enter, numbers]
    refine ⟨?_, ?_⟩
    · rw [order]
      exact List.nodup_append.mpr ⟨numbered.distinct, by simp, by grind⟩
    · intro number member
      rw [order, List.mem_append, List.mem_singleton] at member
      rcases member with old | rfl
      · exact Nat.lt_succ_of_lt (numbered.below number old)
      · simp [enter, next]

theorem proceed_numbered {callers : Callers α} (numbered : callers.Numbered) {waiter : Waiter α}
    (member : waiter ∈ callers.waiters) (progress : Enqueueing) :
    (callers.proceed waiter progress).Numbered := by
  cases progress with
  | waiting => exact numbered
  | done result =>
    have listed : waiter.call.number ∈ callers.waiters.map fun waiter => waiter.call.number :=
      List.mem_map_of_mem member
    have apart := (List.nodup_append.mp numbered.distinct).2.2
    apply finish_numbered (leave_numbered numbered _)
    · simp only [numbers, leave, List.mem_append, List.mem_map, List.mem_filter]
      rintro (⟨entry, returned, same⟩ | ⟨other, ⟨_, differs⟩, same⟩)
      · exact apart _ (List.mem_map_of_mem returned) _ listed same
      · simp [same] at differs
    · exact numbered.below _ (List.mem_append_right _ listed)

end Callers

namespace Traffic

variable {α : Type}

/-- What happens to the queue when items are put in. -/
structure Effect (before after : Traffic α) (items : List (Call α)) : Prop where
  buffer : after.queue.channel.buffer = before.queue.channel.buffer ++ items
  accepted : after.callers.accepted = before.callers.accepted ++ items
  closed : after.queue.channel.closed = before.queue.channel.closed
  opened : items ≠ [] → before.queue.channel.closed = false

/-- A move that puts nothing in. -/
theorem Effect.idle {before after : Traffic α}
    (buffer : after.queue.channel.buffer = before.queue.channel.buffer)
    (accepted : after.callers.accepted = before.callers.accepted)
    (closed : after.queue.channel.closed = before.queue.channel.closed) :
    Effect before after [] :=
  ⟨by rw [buffer, List.append_nil], by rw [accepted, List.append_nil], closed, by simp⟩

/-- Nobody waits without a handle. -/
def Staffed (traffic : Traffic α) : Prop :=
  traffic.queue.channel.handles = 0 → traffic.callers.waiters = []

variable [Queued α]

def create (config : QueueConfig) : Traffic α := ⟨.create config, .fresh⟩

/-- The attempt that a call makes first. -/
def attempt (traffic : Traffic α) (route : Route) (call : Call α) :
    Enqueueing × TaskQueue (Call α) :=
  match route with
  | .waiting => traffic.queue.enqueue call.number call
  | .cancellable _ =>
    traffic.queue.enqueueWithCancel call.number (traffic.callers.isFired route.token?) call
  | .immediate => traffic.queue.tryEnqueue call

def call (traffic : Traffic α) (route : Route) (item : α) : Traffic α :=
  let call : Call α := ⟨traffic.callers.issued, item⟩
  let (progress, queue) := traffic.attempt route call
  ⟨queue, traffic.callers.enter ⟨call, route.token?⟩ progress⟩

def look (traffic : Traffic α) (waiter : Waiter α) : Traffic α :=
  let (progress, _, queue) := traffic.queue.resumeWithCancel waiter.call.number
    (traffic.callers.isFired waiter.token) waiter.call
  ⟨queue, traffic.callers.proceed waiter progress⟩

def abandon (traffic : Traffic α) (waiter : Waiter α) : Traffic α :=
  ⟨(traffic.queue.withdraw waiter.call.number).2, traffic.callers.leave waiter.call.number⟩

def setChannel (traffic : Traffic α) (channel : Channel (Call α)) : Traffic α :=
  { traffic with queue := { traffic.queue with channel } }

def fire (traffic : Traffic α) (token : Nat) : Traffic α :=
  { traffic with
    callers := { traffic.callers with firedTokens := token :: traffic.callers.firedTokens } }

/-- One move. A call needs a handle, and the last handle stays while a call waits. -/
def step (traffic : Traffic α) : Move α → Traffic α
  | .call route item =>
    if traffic.queue.channel.handles = 0 then traffic else traffic.call route item
  | .look number => (traffic.callers.find? number).elim traffic traffic.look
  | .abandon number => (traffic.callers.find? number).elim traffic traffic.abandon
  | .fire token => traffic.fire token
  | .cloneHandle =>
    if traffic.queue.channel.handles = 0 then traffic
    else traffic.setChannel traffic.queue.channel.addHandle
  | .dropHandle =>
    if traffic.queue.channel.handles = 1 ∧ traffic.callers.waiters ≠ [] then traffic
    else traffic.setChannel traffic.queue.channel.dropHandle

/-! ## The buffer -/

theorem attempt_answered (traffic : Traffic α) (route : Route) (call : Call α) :
    Answered traffic.queue call (traffic.attempt route call).1 (traffic.attempt route call).2 := by
  cases route with
  | waiting => exact traffic.queue.enqueue_answered call.number call
  | cancellable token => exact traffic.queue.enqueueWithCancel_answered call.number call _
  | immediate => exact traffic.queue.tryEnqueue_answered call

theorem look_answered (traffic : Traffic α) (waiter : Waiter α) :
    Answered traffic.queue waiter.call
      (traffic.queue.resumeWithCancel waiter.call.number
        (traffic.callers.isFired waiter.token) waiter.call).1
      (traffic.look waiter).queue :=
  traffic.queue.resumeWithCancel_answered _ _ _

theorem step_effect (traffic : Traffic α) (move : Move α) :
    ∃ items, Effect traffic (traffic.step move) items := by
  cases move with
  | call route item =>
    simp only [step]
    split
    · exact ⟨[], .idle rfl rfl rfl⟩
    · have answered := traffic.attempt_answered route ⟨traffic.callers.issued, item⟩
      exact ⟨_, answered.buffer, Callers.accepted_enter _ _ _, answered.closed, answered.opened⟩
  | look number =>
    simp only [step]
    cases traffic.callers.find? number with
    | none => exact ⟨[], .idle rfl rfl rfl⟩
    | some waiter =>
      have answered := traffic.look_answered waiter
      exact ⟨_, answered.buffer, Callers.accepted_proceed _ _ _, answered.closed, answered.opened⟩
  | abandon number =>
    simp only [step]
    cases traffic.callers.find? number with
    | none => exact ⟨[], .idle rfl rfl rfl⟩
    | some waiter =>
      exact ⟨[], .idle (Channel.withdraw_buffer _ _) rfl (Channel.withdraw_closed _ _)⟩
  | fire token => exact ⟨[], .idle rfl rfl rfl⟩
  | cloneHandle =>
    simp only [step]
    split
    · exact ⟨[], .idle rfl rfl rfl⟩
    · exact ⟨[], .idle rfl rfl rfl⟩
  | dropHandle =>
    simp only [step]
    split
    · exact ⟨[], .idle rfl rfl rfl⟩
    · exact ⟨[], .idle rfl rfl rfl⟩

/-- A closed queue takes nothing in. -/
theorem step_of_closed {traffic : Traffic α} (shut : traffic.queue.channel.closed = true)
    (move : Move α) :
    (traffic.step move).queue.channel.buffer = traffic.queue.channel.buffer ∧
      (traffic.step move).callers.accepted = traffic.callers.accepted := by
  obtain ⟨items, effect⟩ := traffic.step_effect move
  have nothing : items = [] := by
    by_contra something
    have opened := effect.opened something
    simp [shut] at opened
  constructor
  · simpa [nothing] using effect.buffer
  · simpa [nothing] using effect.accepted

theorem call_of_closed {traffic : Traffic α} (shut : traffic.queue.channel.closed = true)
    (route : Route) (item : α)
    (heard : traffic.callers.isFired route.token? = false ∨ traffic.queue.policy = .reject) :
    (traffic.call route item).callers.returned =
      traffic.callers.returned ++ [(⟨traffic.callers.issued, item⟩, .error .queueClosed)] := by
  have answer : (traffic.attempt route ⟨traffic.callers.issued, item⟩).1 =
      .done (.error .queueClosed) := by
    cases route with
    | waiting => exact congrArg Prod.fst (TaskQueue.enqueue_of_closed _ _ shut)
    | cancellable token =>
      exact congrArg Prod.fst (TaskQueue.enqueueWithCancel_of_closed _ _ shut heard)
    | immediate => exact congrArg Prod.fst (TaskQueue.tryEnqueue_of_closed _ shut)
  simp only [call, answer]
  rfl

theorem look_of_closed {traffic : Traffic α} (shut : traffic.queue.channel.closed = true)
    {waiter : Waiter α} (heard : traffic.callers.isFired waiter.token = false) :
    (traffic.look waiter).callers.returned =
      traffic.callers.returned ++ [(waiter.call, .error .queueClosed)] := by
  have answer := TaskQueue.resumeWithCancel_of_closed waiter.call.number waiter.call shut
  simp only [look, heard, answer]
  rfl

/-! ## Numbers and handles -/

theorem step_numbered {traffic : Traffic α} (numbered : traffic.callers.Numbered)
    (move : Move α) : (traffic.step move).callers.Numbered := by
  cases move with
  | call route item =>
    simp only [step]
    split
    · exact numbered
    · exact Callers.enter_numbered numbered _ _ rfl
  | look number =>
    simp only [step]
    cases found : traffic.callers.find? number with
    | none => exact numbered
    | some waiter =>
      exact Callers.proceed_numbered numbered (Callers.mem_waiters_of_find? found) _
  | abandon number =>
    simp only [step]
    cases traffic.callers.find? number with
    | none => exact numbered
    | some waiter => exact Callers.leave_numbered numbered _
  | fire token => exact ⟨numbered.distinct, numbered.below⟩
  | cloneHandle =>
    simp only [step]
    split
    · exact numbered
    · exact numbered
  | dropHandle =>
    simp only [step]
    split
    · exact numbered
    · exact numbered

theorem step_staffed {traffic : Traffic α} (staffed : traffic.Staffed) (move : Move α) :
    (traffic.step move).Staffed := by
  cases move with
  | call route item =>
    simp only [step]
    split
    · exact staffed
    · rename_i handled
      intro gone
      have answered := traffic.attempt_answered route ⟨traffic.callers.issued, item⟩
      exact absurd (answered.handles.symm.trans gone) handled
  | look number =>
    simp only [step]
    cases found : traffic.callers.find? number with
    | none => exact staffed
    | some waiter =>
      intro gone
      have nobody := staffed ((traffic.look_answered waiter).handles.symm.trans gone)
      have member := Callers.mem_waiters_of_find? found
      simp [nobody] at member
  | abandon number =>
    simp only [step]
    cases found : traffic.callers.find? number with
    | none => exact staffed
    | some waiter =>
      intro gone
      have nobody := staffed ((Channel.withdraw_handles _ _).symm.trans gone)
      have member := Callers.mem_waiters_of_find? found
      simp [nobody] at member
  | fire token => exact staffed
  | cloneHandle =>
    simp only [step]
    split
    · exact staffed
    · intro gone
      simp [setChannel, Channel.addHandle] at gone
  | dropHandle =>
    simp only [step]
    split
    · exact staffed
    · rename_i spare
      intro gone
      simp only [setChannel, Channel.dropHandle] at gone
      change traffic.callers.waiters = []
      by_cases last : traffic.queue.channel.handles = 1
      · simpa [last] using spare
      · exact staffed (by omega)

/-- Without handles no move touches the queue. -/
theorem step_queue_of_gone {traffic : Traffic α} (staffed : traffic.Staffed)
    (gone : traffic.queue.channel.handles = 0) (move : Move α) :
    (traffic.step move).queue = traffic.queue := by
  have nobody : ∀ number, traffic.callers.find? number = none := by
    intro number
    simp [Callers.find?, staffed gone]
  cases move with
  | call route item => simp only [step, gone, if_true]
  | look number => simp only [step, nobody, Option.elim]
  | abandon number => simp only [step, nobody, Option.elim]
  | fire token => rfl
  | cloneHandle => simp only [step, gone, if_true]
  | dropHandle =>
    have same : traffic.queue.channel.handles - 1 = traffic.queue.channel.handles := by omega
    have stays : traffic.queue.channel.dropHandle = traffic.queue.channel := by
      rw [Channel.dropHandle, same]
    simp [step, gone, setChannel, stays]

theorem step_deserted {traffic : Traffic α} (staffed : traffic.Staffed)
    (deserted : traffic.queue.channel.Deserted) (move : Move α) :
    (traffic.step move).queue.channel.Deserted := by
  rw [step_queue_of_gone staffed deserted.2]
  exact deserted

end Traffic

end WorkHost
