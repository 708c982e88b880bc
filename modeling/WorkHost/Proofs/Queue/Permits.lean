import WorkHost.Proofs.Queue.Delivery

/-!
Contract: the places of a channel as permits of a fair semaphore.

A channel counts the places in use. A bounded buffer can also be made of an unbounded one and
a semaphore that counts the free places: whoever sends takes a permit, and an item that is
received gives one back, to whoever waits longest. Both answer every operation in the same
way, and free permits and used places always add up to the capacity (`Meters.handle`). So the
count of the free places is the capacity less the places in use, in every run
(`Delivery.run_metered`).
-/

namespace WorkHost

/-- Permits, and a line of those who wait for one. -/
structure Semaphore where
  /-- The permits that nobody has. -/
  free : Nat
  /-- Who has been given a permit and has not come for it. -/
  granted : List Ticket
  /-- Who waits for a permit, in the order of arrival. -/
  line : List Ticket
  closed : Bool
deriving DecidableEq, Repr

namespace Semaphore

def create (permits : Nat) : Semaphore := ⟨permits, [], [], false⟩

/-- Takes a free permit. -/
def tryAcquire (semaphore : Semaphore) : Sending × Semaphore :=
  if semaphore.closed then (.closed, semaphore)
  else if semaphore.free = 0 then (.full, semaphore)
  else (.sent, { semaphore with free := semaphore.free - 1 })

/-- Takes a free permit, or a place in the line. -/
def acquire (semaphore : Semaphore) (ticket : Ticket) : Sending × Semaphore :=
  if semaphore.closed then (.closed, semaphore)
  else if semaphore.free = 0 then
    (.waiting, { semaphore with line := semaphore.line ++ [ticket] })
  else (.sent, { semaphore with free := semaphore.free - 1 })

/-- A permit comes back. Whoever waits longest gets it. -/
def release (semaphore : Semaphore) : Semaphore :=
  match semaphore.line with
  | [] => { semaphore with free := semaphore.free + 1 }
  | ticket :: rest =>
    { semaphore with line := rest, granted := semaphore.granted ++ [ticket] }

/-- Someone no longer wants a permit. -/
def cancel (semaphore : Semaphore) (ticket : Ticket) : Semaphore :=
  if semaphore.granted.contains ticket then
    { semaphore with granted := semaphore.granted.erase ticket }.release
  else { semaphore with line := semaphore.line.erase ticket }

/-- Someone who waits comes for a permit. -/
def claim (semaphore : Semaphore) (ticket : Ticket) : Sending × Semaphore :=
  if semaphore.closed then (.closed, semaphore.cancel ticket)
  else if semaphore.granted.contains ticket then
    (.sent, { semaphore with granted := semaphore.granted.erase ticket })
  else (.waiting, semaphore)

def close (semaphore : Semaphore) : Semaphore := { semaphore with closed := true, line := [] }

end Semaphore

/-- An unbounded buffer to which a semaphore admits items. -/
structure MeteredBuffer (α : Type) where
  permits : Semaphore
  items : List α
deriving DecidableEq, Repr

/-- What can be done to a channel. -/
inductive Channel.Op (α : Type) where
  | trySend (item : α)
  | send (ticket : Ticket) (item : α)
  | resume (ticket : Ticket) (item : α)
  | withdraw (ticket : Ticket)
  | receive
  | close
  | addHandle
  | dropHandle
deriving DecidableEq, Repr

namespace Channel

variable {α : Type}

/-- Does what was asked for; an attempt to send is answered. -/
def handle (channel : Channel α) : Op α → Option Sending × Channel α
  | .trySend item => (channel.trySend item).map some id
  | .send ticket item => (channel.send ticket item).map some id
  | .resume ticket item => (channel.resume ticket item).map some id
  | .withdraw ticket => (none, (channel.withdraw ticket).2)
  | .receive => (none, channel.receive.2.2)
  | .close => (none, channel.close.2)
  | .addHandle => (none, channel.addHandle)
  | .dropHandle => (none, channel.dropHandle)

def handleAll (channel : Channel α) (ops : List (Op α)) : Channel α :=
  ops.foldl (fun channel op => (channel.handle op).2) channel

@[simp]
theorem grant_capacity (channel : Channel α) :
    channel.grant.2.capacity = channel.capacity := by
  unfold grant
  split <;> rfl

@[simp]
theorem withdraw_capacity (channel : Channel α) (ticket : Ticket) :
    (channel.withdraw ticket).2.capacity = channel.capacity := by
  unfold withdraw
  split
  · exact grant_capacity _
  · rfl

theorem handle_capacity (channel : Channel α) (op : Op α) :
    (channel.handle op).2.capacity = channel.capacity := by
  cases op with
  | trySend item =>
    simp only [handle, trySend, Prod.map_snd, id_eq]
    split
    · rfl
    · split <;> rfl
  | send ticket item =>
    simp only [handle, send, Prod.map_snd, id_eq]
    split
    · rfl
    · split <;> rfl
  | resume ticket item =>
    simp only [handle, resume, Prod.map_snd, id_eq]
    split
    · exact channel.withdraw_capacity ticket
    · split <;> rfl
  | withdraw ticket => exact channel.withdraw_capacity ticket
  | receive =>
    simp only [handle, receive]
    split
    · exact grant_capacity _
    · split <;> rfl
  | close | addHandle | dropHandle => rfl

theorem handleAll_capacity (channel : Channel α) (ops : List (Op α)) :
    (channel.handleAll ops).capacity = channel.capacity := by
  induction ops generalizing channel with
  | nil => rfl
  | cons op rest inductionHypothesis =>
    exact (inductionHypothesis _).trans (channel.handle_capacity op)

end Channel

namespace MeteredBuffer

variable {α : Type}

def create (capacity : Nat) : MeteredBuffer α := ⟨.create (max capacity 1), []⟩

/-- The item comes in with the permit. -/
def deposit (metered : MeteredBuffer α) (item : α) :
    Sending × Semaphore → Option Sending × MeteredBuffer α
  | (.sent, permits) => (some .sent, ⟨permits, metered.items ++ [item]⟩)
  | (answer, permits) => (some answer, ⟨permits, metered.items⟩)

def handle (metered : MeteredBuffer α) : Channel.Op α → Option Sending × MeteredBuffer α
  | .trySend item => metered.deposit item metered.permits.tryAcquire
  | .send ticket item => metered.deposit item (metered.permits.acquire ticket)
  | .resume ticket item => metered.deposit item (metered.permits.claim ticket)
  | .withdraw ticket => (none, { metered with permits := metered.permits.cancel ticket })
  | .receive =>
    match metered.items with
    | [] => (none, metered)
    | _ :: rest => (none, ⟨metered.permits.release, rest⟩)
  | .close => (none, { metered with permits := metered.permits.close })
  | .addHandle | .dropHandle => (none, metered)

def handleAll (metered : MeteredBuffer α) (ops : List (Channel.Op α)) : MeteredBuffer α :=
  ops.foldl (fun metered op => (metered.handle op).2) metered

end MeteredBuffer

/-- A channel whose used places are those for which the permits are gone. Nobody waits while
a permit is free. -/
structure Meters {α : Type} (metered : MeteredBuffer α) (channel : Channel α) : Prop where
  items : metered.items = channel.buffer
  granted : metered.permits.granted = channel.granted
  line : metered.permits.line = channel.waiting
  closed : metered.permits.closed = channel.closed
  balance : metered.permits.free + channel.len = channel.capacity
  busy : channel.waiting ≠ [] → metered.permits.free = 0

namespace Meters

variable {α : Type} {metered : MeteredBuffer α} {channel : Channel α}

theorem create (capacity : Nat) :
    Meters (MeteredBuffer.create capacity : MeteredBuffer α) (.create capacity) where
  items := rfl
  granted := rfl
  line := rfl
  closed := rfl
  balance := rfl
  busy := fun someone => absurd rfl someone

theorem isFull_iff (meters : Meters metered channel) :
    channel.isFull = true ↔ metered.permits.free = 0 := by
  have balance := meters.balance
  rw [Channel.isFull, decide_eq_true_iff]
  omega

/-- A permit is taken for an item. -/
theorem push (meters : Meters metered channel) (item : α) (some : metered.permits.free ≠ 0) :
    Meters ⟨{ metered.permits with free := metered.permits.free - 1 }, metered.items ++ [item]⟩
      (channel.push item) where
  items := congrArg (· ++ [item]) meters.items
  granted := meters.granted
  line := meters.line
  closed := meters.closed
  balance := by
    have balance := meters.balance
    simp only [Channel.len, Channel.push, List.length_append, List.length_singleton] at balance ⊢
    omega
  busy someone := absurd (meters.busy someone) some

/-- A place that has become free goes to the one who waits longest. The channel has stopped to
count it, and no permit is there for it yet. -/
theorem release {permits : Semaphore} {items : List α} {channel : Channel α}
    (sameItems : items = channel.buffer) (granted : permits.granted = channel.granted)
    (line : permits.line = channel.waiting) (closed : permits.closed = channel.closed)
    (balance : permits.free + channel.len + 1 = channel.capacity)
    (busy : channel.waiting ≠ [] → permits.free = 0) :
    Meters ⟨permits.release, items⟩ channel.grant.2 := by
  unfold Semaphore.release Channel.grant
  rw [line]
  cases waiting : channel.waiting with
  | nil =>
    refine ⟨sameItems, granted, waiting.symm, closed, ?_, fun someone => absurd waiting someone⟩
    show permits.free + 1 + channel.len = channel.capacity
    omega
  | cons ticket rest =>
    refine ⟨sameItems, congrArg (· ++ [ticket]) granted, rfl, closed, ?_, ?_⟩
    · simp only [Channel.len, List.length_append, List.length_singleton] at balance ⊢
      omega
    · exact fun _ => busy (waiting ▸ List.cons_ne_nil ticket rest)

theorem withdraw (meters : Meters metered channel) (ticket : Ticket) :
    Meters { metered with permits := metered.permits.cancel ticket }
      (channel.withdraw ticket).2 := by
  have balance := meters.balance
  unfold Semaphore.cancel Channel.withdraw
  rw [meters.granted]
  by_cases placed : channel.granted.contains ticket = true
  · rw [if_pos placed, if_pos placed]
    refine @release _ _ _ { channel with granted := channel.granted.erase ticket }
      meters.items rfl meters.line meters.closed ?_ meters.busy
    have isPlaced : ticket ∈ channel.granted := by simpa using placed
    have erased := List.length_erase_of_mem isPlaced
    have some := List.length_pos_of_mem isPlaced
    simp only [Channel.len] at balance ⊢
    omega
  · rw [if_neg placed, if_neg placed]
    refine ⟨meters.items, rfl, congrArg (·.erase ticket) meters.line, meters.closed,
      balance, ?_⟩
    intro someone
    refine meters.busy fun nobody => someone ?_
    show channel.waiting.erase ticket = []
    rw [nobody]
    rfl

theorem closed_iff (meters : Meters metered channel) :
    metered.permits.closed = true ↔ channel.closed = true := by
  rw [meters.closed]

theorem trySend (meters : Meters metered channel) (item : α) :
    (metered.handle (.trySend item)).1 = (channel.handle (.trySend item)).1 ∧
      Meters (metered.handle (.trySend item)).2 (channel.handle (.trySend item)).2 := by
  simp only [MeteredBuffer.handle, Channel.handle, Semaphore.tryAcquire, Channel.trySend,
    meters.closed_iff, meters.isFull_iff]
  by_cases shut : channel.closed = true
  · rw [if_pos shut, if_pos shut]
    exact ⟨rfl, meters⟩
  · rw [if_neg shut, if_neg shut]
    by_cases full : metered.permits.free = 0
    · rw [if_pos full, if_pos full]
      exact ⟨rfl, meters⟩
    · rw [if_neg full, if_neg full]
      exact ⟨rfl, meters.push item full⟩

theorem send (meters : Meters metered channel) (ticket : Ticket) (item : α) :
    (metered.handle (.send ticket item)).1 = (channel.handle (.send ticket item)).1 ∧
      Meters (metered.handle (.send ticket item)).2 (channel.handle (.send ticket item)).2 := by
  simp only [MeteredBuffer.handle, Channel.handle, Semaphore.acquire, Channel.send,
    meters.closed_iff, meters.isFull_iff]
  by_cases shut : channel.closed = true
  · rw [if_pos shut, if_pos shut]
    exact ⟨rfl, meters⟩
  · rw [if_neg shut, if_neg shut]
    by_cases full : metered.permits.free = 0
    · rw [if_pos full, if_pos full]
      exact ⟨rfl, meters.items, meters.granted, congrArg (· ++ [ticket]) meters.line,
        meters.closed, meters.balance, fun _ => full⟩
    · rw [if_neg full, if_neg full]
      exact ⟨rfl, meters.push item full⟩

/-- Who comes for a granted place uses it: it stays in use. -/
theorem resume (meters : Meters metered channel) (ticket : Ticket) (item : α) :
    (metered.handle (.resume ticket item)).1 = (channel.handle (.resume ticket item)).1 ∧
      Meters (metered.handle (.resume ticket item)).2
        (channel.handle (.resume ticket item)).2 := by
  have balance := meters.balance
  simp only [MeteredBuffer.handle, Channel.handle, Semaphore.claim, Channel.resume,
    meters.closed_iff, meters.granted]
  by_cases shut : channel.closed = true
  · rw [if_pos shut, if_pos shut]
    exact ⟨rfl, meters.withdraw ticket⟩
  · rw [if_neg shut, if_neg shut]
    by_cases placed : channel.granted.contains ticket = true
    · rw [if_pos placed, if_pos placed]
      refine ⟨rfl, congrArg (· ++ [item]) meters.items, rfl, meters.line, meters.closed, ?_,
        meters.busy⟩
      have isPlaced : ticket ∈ channel.granted := by simpa using placed
      have erased := List.length_erase_of_mem isPlaced
      have some := List.length_pos_of_mem isPlaced
      show metered.permits.free +
        ((channel.buffer ++ [item]).length + (channel.granted.erase ticket).length) =
          channel.capacity
      rw [List.length_append, List.length_singleton]
      simp only [Channel.len] at balance
      omega
    · rw [if_neg placed, if_neg placed]
      exact ⟨rfl, meters⟩

theorem receive (meters : Meters metered channel) :
    Meters (metered.handle .receive).2 (channel.handle .receive).2 := by
  simp only [MeteredBuffer.handle, Channel.handle, Channel.receive, meters.items]
  cases buffer : channel.buffer with
  | nil =>
    simp only
    split
    · exact meters
    · exact meters
  | cons first rest =>
    refine @release _ _ _ { channel with buffer := rest } rfl meters.granted meters.line
      meters.closed ?_ meters.busy
    have balance := meters.balance
    simp only [Channel.len, buffer, List.length_cons] at balance ⊢
    omega

/-- Both give the same answer, and free and used places go on to add up. -/
theorem handle (meters : Meters metered channel) (op : Channel.Op α) :
    (metered.handle op).1 = (channel.handle op).1 ∧
      Meters (metered.handle op).2 (channel.handle op).2 := by
  cases op with
  | trySend item => exact meters.trySend item
  | send ticket item => exact meters.send ticket item
  | resume ticket item => exact meters.resume ticket item
  | withdraw ticket => exact ⟨rfl, meters.withdraw ticket⟩
  | receive =>
    refine ⟨?_, meters.receive⟩
    simp only [MeteredBuffer.handle, Channel.handle]
    split <;> rfl
  | close =>
    exact ⟨rfl, meters.items, meters.granted, rfl, rfl, meters.balance,
      fun someone => absurd rfl someone⟩
  | addHandle => exact ⟨rfl, meters.items, meters.granted, meters.line, meters.closed,
      meters.balance, meters.busy⟩
  | dropHandle => exact ⟨rfl, meters.items, meters.granted, meters.line, meters.closed,
      meters.balance, meters.busy⟩

theorem handleAll (meters : Meters metered channel) (ops : List (Channel.Op α)) :
    Meters (metered.handleAll ops) (channel.handleAll ops) := by
  induction ops generalizing metered channel with
  | nil => exact meters
  | cons op rest inductionHypothesis => exact inductionHypothesis (meters.handle op).2

end Meters

/-! ## What a run asks of the channel -/

namespace Traffic

variable {α : Type} [Queued α]

/-- What the first attempt of a call asks for. -/
def requested (traffic : Traffic α) (route : Route) (call : Call α) :
    List (Channel.Op (Call α)) :=
  match traffic.queue.policy with
  | .reject => [.trySend call]
  | .wait =>
    match route with
    | .immediate => [.trySend call]
    | .waiting => [.send call.number call]
    | .cancellable _ =>
      if traffic.callers.isFired route.token? then [] else [.send call.number call]

/-- What a waiting call asks for when it looks again. -/
def renewed (traffic : Traffic α) (waiter : Waiter α) : List (Channel.Op (Call α)) :=
  if traffic.callers.isFired waiter.token then [.withdraw waiter.call.number]
  else [.resume waiter.call.number waiter.call]

def requests (traffic : Traffic α) : Move α → List (Channel.Op (Call α))
  | .call route item =>
    if traffic.queue.channel.handles = 0 then []
    else traffic.requested route ⟨traffic.callers.issued, item⟩
  | .look number => (traffic.callers.find? number).elim [] traffic.renewed
  | .abandon number => (traffic.callers.find? number).elim [] fun _ => [.withdraw number]
  | .fire _ => []
  | .cloneHandle => if traffic.queue.channel.handles = 0 then [] else [.addHandle]
  | .dropHandle =>
    if traffic.queue.channel.handles = 1 ∧ traffic.callers.waiters ≠ [] then []
    else [.dropHandle]

theorem attempt_channel (traffic : Traffic α) (route : Route) (call : Call α) :
    (traffic.attempt route call).2.channel =
      traffic.queue.channel.handleAll (traffic.requested route call) := by
  cases policy : traffic.queue.policy with
  | reject =>
    cases route <;>
      simp only [attempt, requested, policy, TaskQueue.enqueue, TaskQueue.enqueueWithCancel] <;>
      rfl
  | wait =>
    cases route with
    | immediate => simp only [attempt, requested, policy]; rfl
    | waiting => simp only [attempt, requested, policy, TaskQueue.enqueue]; rfl
    | cancellable token =>
      simp only [attempt, requested, policy, TaskQueue.enqueueWithCancel, TaskQueue.enqueue]
      split <;> rfl

theorem look_channel (traffic : Traffic α) (waiter : Waiter α) :
    (traffic.look waiter).queue.channel =
      traffic.queue.channel.handleAll (traffic.renewed waiter) := by
  simp only [look, renewed, TaskQueue.resumeWithCancel]
  cases traffic.callers.isFired waiter.token <;> rfl

theorem step_channel (traffic : Traffic α) (move : Move α) :
    (traffic.step move).queue.channel =
      traffic.queue.channel.handleAll (traffic.requests move) := by
  cases move with
  | call route item =>
    simp only [step, requests]
    split
    · rfl
    · exact traffic.attempt_channel route ⟨traffic.callers.issued, item⟩
  | look number =>
    simp only [step, requests]
    cases traffic.callers.find? number with
    | none => rfl
    | some waiter => exact traffic.look_channel waiter
  | abandon number =>
    simp only [step, requests]
    cases found : traffic.callers.find? number with
    | none => rfl
    | some waiter =>
      have same : waiter.call.number = number := by simpa using List.find?_some found
      show (traffic.queue.channel.withdraw waiter.call.number).2 = _
      rw [same]
      rfl
  | fire token => rfl
  | cloneHandle =>
    simp only [step, requests]
    split <;> rfl
  | dropHandle =>
    simp only [step, requests]
    split <;> rfl

end Traffic

namespace Channel

variable {α : Type}

/-- Taking everything is to receive as often as there are items. -/
theorem receiveAll_eq (channel : Channel α) :
    channel.receiveAll.2 =
      channel.handleAll (List.replicate channel.buffer.length .receive) := by
  induction size : channel.buffer.length generalizing channel with
  | zero =>
    have empty : channel.buffer = [] := List.length_eq_zero_iff.mp size
    rw [receiveAll]
    split
    · rename_i item woken next received
      have buffer := (receive_item received).1
      simp [empty] at buffer
    · rename_i answer woken next nothing received
      exact (receive_none received nothing).2
  | succ count inductionHypothesis =>
    rw [receiveAll]
    split
    · rename_i item woken next received
      have buffer := (receive_item received).1
      have shorter : next.buffer.length = count := by
        rw [buffer, List.length_cons] at size
        omega
      have handled : (channel.handle .receive).2 = next := by
        simp only [handle, received]
      show next.receiveAll.2 = _
      rw [inductionHypothesis next shorter, List.replicate_succ, handleAll, handleAll,
        List.foldl_cons, handled]
    · rename_i answer woken next nothing received
      have empty := (receive_none received nothing).1
      simp [empty] at size

theorem closeAndDiscard_eq (channel : Channel α) :
    channel.closeAndDiscard.2 =
      channel.handleAll (.close :: List.replicate channel.buffer.length .receive) :=
  channel.close.2.receiveAll_eq

theorem handleAll_append (channel : Channel α) (first second : List (Op α)) :
    channel.handleAll (first ++ second) = (channel.handleAll first).handleAll second :=
  List.foldl_append

end Channel

namespace Delivery

variable {α : Type} [Queued α]

def requests (state : Delivery α) : Move α → List (Channel.Op (Call α))
  | .traffic move => state.traffic.requests move
  | .dequeue stopping => if stopping then [] else [.receive]
  | .close => [.close]
  | .discard => .close :: List.replicate state.channel.buffer.length .receive

/-- All that the moves of a run ask of the channel. -/
def operations (state : Delivery α) : List (Move α) → List (Channel.Op (Call α))
  | [] => []
  | move :: rest => state.requests move ++ (state.step move).operations rest

theorem step_channel (state : Delivery α) (move : Move α) :
    (state.step move).channel = state.channel.handleAll (state.requests move) := by
  cases move with
  | traffic move => exact state.traffic.step_channel move
  | dequeue stopping =>
    simp only [step, dequeue, Channel.dequeue, requests]
    cases stopping with
    | true => rfl
    | false =>
      simp only [Bool.false_eq_true, if_false]
      split
      · rename_i call woken next received
        exact (congrArg (fun answer => answer.2.2) received).symm
      · rename_i answer woken next nothing received
        exact (congrArg (fun answer => answer.2.2) received).symm
  | close => rfl
  | discard => exact state.channel.closeAndDiscard_eq

theorem run_channel (state : Delivery α) (moves : List (Move α)) :
    (state.run moves).channel = state.channel.handleAll (state.operations moves) := by
  induction moves generalizing state with
  | nil => rfl
  | cons move rest inductionHypothesis =>
    rw [operations, Channel.handleAll_append, ← step_channel]
    exact inductionHypothesis (state.step move)

/-- The buffer with permits to which all that a run asks for was done instead. -/
def metered (config : QueueConfig) (moves : List (Move α)) : MeteredBuffer (Call α) :=
  (MeteredBuffer.create config.capacity).handleAll ((create config).operations moves)

theorem run_metered (config : QueueConfig) (moves : List (Move α)) :
    Meters (metered config moves) ((create config).run moves).channel := by
  rw [run_channel]
  exact (Meters.create config.capacity).handleAll _

end Delivery

end WorkHost
