import WorkHost.Proofs.Queue.Traffic

/-!
Contract: a task queue among its callers and its receiver is a first-in first-out list.

Calls, waits and the operations of the receiver come in any order. `Fifo` says what can
happen to the items of a plain list. Whatever happens to those of a queue is such a
history (`run_fifo`), and since nothing is accepted after the receiver has discarded
items, the history falls into what was delivered, what was discarded and what is
buffered (`run_ordered`).
-/

namespace WorkHost

/-- What happens to the items of a queue. -/
inductive Passage (α : Type) where
  | accepted (item : α)
  /-- The receiver got an item. -/
  | delivered (item : α)
  /-- The receiver dropped items. -/
  | discarded (items : List α)
deriving DecidableEq, Repr

namespace Passage

variable {α : Type}

def accepted? : Passage α → Option α
  | .accepted item => some item
  | _ => none

def delivered? : Passage α → Option α
  | .delivered item => some item
  | _ => none

def dropped : Passage α → List α
  | .discarded items => items
  | _ => []

end Passage

/-- What can happen to the items of a list to which items are added at the end and from
which they are taken at the front; with what the list holds afterwards. -/
inductive Fifo {α : Type} : List (Passage α) → List α → Prop where
  | empty : Fifo [] []
  | accept {history : List (Passage α)} {items : List α} {item : α} :
    Fifo history items → Fifo (history ++ [.accepted item]) (items ++ [item])
  | deliver {history : List (Passage α)} {items : List α} {item : α} :
    Fifo history (item :: items) → Fifo (history ++ [.delivered item]) items
  | discard {history : List (Passage α)} {items : List α} :
    Fifo history items → Fifo (history ++ [.discarded items]) []

theorem Fifo.acceptAll {α : Type} {history : List (Passage α)} {items : List α}
    (fifo : Fifo history items) (more : List α) :
    Fifo (history ++ more.map .accepted) (items ++ more) := by
  induction more generalizing history items with
  | nil => simpa using fifo
  | cons item rest inductionHypothesis => simpa using inductionHypothesis fifo.accept

/-- A queue among its callers and its receiver. -/
structure Delivery (α : Type) where
  traffic : Traffic α
  /-- What has happened to the calls so far; it influences nothing. -/
  history : List (Passage (Call α))
deriving Repr

inductive Delivery.Move (α : Type) where
  | traffic (move : Traffic.Move α)
  /-- The receiver looks for an item, and first whether it was told to stop. -/
  | dequeue (stopping : Bool)
  | close
  | discard
deriving Repr

namespace Delivery

variable {α : Type}

def channel (state : Delivery α) : Channel (Call α) := state.traffic.queue.channel

def callers (state : Delivery α) : Callers α := state.traffic.callers

/-- The items that the receiver got, in the order in which it got them. -/
def delivered (state : Delivery α) : List (Call α) :=
  state.history.filterMap Passage.delivered?

def discarded (state : Delivery α) : List (Call α) := state.history.flatMap Passage.dropped

def note (state : Delivery α) (passages : List (Passage (Call α))) : Delivery α :=
  { state with history := state.history ++ passages }

def dequeue (state : Delivery α) (stopping : Bool) : Delivery α :=
  match state.channel.dequeue stopping with
  | (.item call, _, channel) =>
    { state with traffic := state.traffic.setChannel channel }.note [.delivered call]
  | (_, _, channel) => { state with traffic := state.traffic.setChannel channel }

def discard (state : Delivery α) : Delivery α :=
  let (calls, channel) := state.channel.closeAndDiscard
  { state with traffic := state.traffic.setChannel channel }.note [.discarded calls]

/-! ## What a step does -/

/-- The receiver gets the oldest item unless it was told to stop. -/
theorem dequeue_of_buffer (state : Delivery α) {call : Call α} {rest : List (Call α)}
    (buffer : state.channel.buffer = call :: rest) :
    (state.dequeue false).history = state.history ++ [.delivered call] ∧
      (state.dequeue false).channel.buffer = rest := by
  obtain ⟨woken, next, received, left⟩ := Channel.receive_of_buffer buffer
  have answered : state.channel.dequeue false = (.item call, woken, next) := received
  unfold dequeue
  rw [answered]
  exact ⟨rfl, left⟩

/-- A receiver that gets nothing leaves everything as it is. -/
theorem dequeue_cases (state : Delivery α) (stopping : Bool) :
    state.dequeue stopping = state ∨
      ∃ call, state.channel.buffer = call :: (state.dequeue stopping).channel.buffer ∧
        (state.dequeue stopping).history = state.history ++ [.delivered call] ∧
        (state.dequeue stopping).callers = state.callers := by
  have idle : { state with traffic := state.traffic.setChannel state.channel } = state := rfl
  unfold dequeue Channel.dequeue
  cases stopping with
  | true => exact Or.inl idle
  | false =>
    simp only [Bool.false_eq_true, if_false]
    split
    · rename_i call woken next received
      exact Or.inr ⟨call, (Channel.receive_item received).1, rfl, rfl⟩
    · rename_i answer woken next nothing received
      rw [(Channel.receive_none received nothing).2]
      exact Or.inl idle

/-- All that is buffered is dropped. -/
theorem discard_spec (state : Delivery α) :
    state.discard.history = state.history ++ [.discarded state.channel.buffer] ∧
      state.discard.channel.buffer = [] ∧ state.discard.channel.closed = true := by
  obtain ⟨calls, left, shut⟩ := state.channel.closeAndDiscard_spec
  refine ⟨?_, left, shut⟩
  rw [← calls]
  rfl

variable [Queued α]

def create (config : QueueConfig) : Delivery α := ⟨.create config, []⟩

def pass (state : Delivery α) (move : Traffic.Move α) : Delivery α :=
  let traffic := state.traffic.step move
  let accepted := traffic.callers.accepted.drop state.callers.accepted.length
  { state with traffic }.note (accepted.map .accepted)

def step (state : Delivery α) : Move α → Delivery α
  | .traffic move => state.pass move
  | .dequeue stopping => state.dequeue stopping
  | .close => { state with traffic := state.traffic.setChannel state.channel.close.2 }
  | .discard => state.discard

def run (state : Delivery α) (moves : List (Move α)) : Delivery α := moves.foldl step state

theorem pass_effect (state : Delivery α) (move : Traffic.Move α) :
    ∃ calls, Traffic.Effect state.traffic (state.pass move).traffic calls ∧
      (state.pass move).history = state.history ++ calls.map .accepted := by
  obtain ⟨calls, effect⟩ := state.traffic.step_effect move
  refine ⟨calls, effect, ?_⟩
  show _ ++ _ = _
  rw [effect.accepted, callers, List.drop_left]

/-! ## What every run keeps -/

/-- The history is one of a plain list that holds what is buffered. -/
structure Listed (state : Delivery α) : Prop where
  fifo : Fifo state.history state.channel.buffer
  accepted : state.history.filterMap Passage.accepted? = state.callers.accepted

/-- What was accepted was delivered, then discarded, or is still buffered. -/
structure Ordered (state : Delivery α) : Prop where
  accepted : state.delivered ++ state.discarded ++ state.channel.buffer = state.callers.accepted
  spent : state.discarded ≠ [] → state.channel.buffer = [] ∧ state.channel.closed = true

theorem step_listed (state : Delivery α) (move : Move α) (listed : state.Listed) :
    (state.step move).Listed := by
  obtain ⟨fifo, accepted⟩ := listed
  cases move with
  | traffic move =>
    obtain ⟨calls, effect, history⟩ := state.pass_effect move
    constructor
    · show Fifo (state.pass move).history (state.pass move).traffic.queue.channel.buffer
      rw [history, effect.buffer]
      exact fifo.acceptAll calls
    · show (state.pass move).history.filterMap _ = (state.pass move).traffic.callers.accepted
      rw [history, effect.accepted, List.filterMap_append, accepted, List.filterMap_map]
      exact congrArg _ List.filterMap_some
  | dequeue stopping =>
    rw [step]
    rcases state.dequeue_cases stopping with same | ⟨call, buffer, history, callers⟩
    · rw [same]
      exact ⟨fifo, accepted⟩
    · rw [buffer] at fifo
      constructor
      · rw [history]
        exact fifo.deliver
      · rw [history, callers, List.filterMap_append, accepted]
        exact List.append_nil _
  | close => exact ⟨fifo, accepted⟩
  | discard =>
    obtain ⟨history, left, _⟩ := state.discard_spec
    constructor
    · show Fifo state.discard.history state.discard.channel.buffer
      rw [history, left]
      exact fifo.discard
    · show state.discard.history.filterMap _ = state.callers.accepted
      rw [history, List.filterMap_append, accepted]
      exact List.append_nil _

theorem step_ordered (state : Delivery α) (move : Move α) (ordered : state.Ordered) :
    (state.step move).Ordered := by
  obtain ⟨accepted, spent⟩ := ordered
  cases move with
  | traffic move =>
    obtain ⟨calls, effect, history⟩ := state.pass_effect move
    have delivered : (state.pass move).delivered = state.delivered := by
      unfold Delivery.delivered
      rw [history, List.filterMap_append, List.filterMap_map]
      exact (congrArg _ (List.filterMap_eq_nil_iff.mpr fun _ _ => rfl)).trans (List.append_nil _)
    have discarded : (state.pass move).discarded = state.discarded := by
      unfold Delivery.discarded
      rw [history, List.flatMap_append, List.flatMap_map]
      exact (congrArg _ (List.flatMap_eq_nil_iff.mpr fun _ _ => rfl)).trans (List.append_nil _)
    constructor
    · show (state.pass move).delivered ++ (state.pass move).discarded ++
        (state.pass move).traffic.queue.channel.buffer = (state.pass move).traffic.callers.accepted
      rw [delivered, discarded, effect.buffer, effect.accepted, ← List.append_assoc]
      exact congrArg (· ++ calls) accepted
    · intro some
      obtain ⟨empty, shut⟩ := spent (discarded ▸ some)
      exact ⟨(Traffic.step_of_closed shut move).1.trans empty, effect.closed.trans shut⟩
  | dequeue stopping =>
    rw [step]
    rcases state.dequeue_cases stopping with same | ⟨call, buffer, history, callers⟩
    · rw [same]
      exact ⟨accepted, spent⟩
    · have delivered : (state.dequeue stopping).delivered = state.delivered ++ [call] := by
        simp [Delivery.delivered, history, Passage.delivered?]
      have discarded : (state.dequeue stopping).discarded = state.discarded := by
        simp [Delivery.discarded, history, Passage.dropped]
      have none : state.discarded = [] := by
        by_contra some
        have empty := (spent some).1
        simp [buffer] at empty
      constructor
      · rw [delivered, discarded, callers, ← accepted, none, buffer]
        simp
      · intro some
        exact absurd (discarded.trans none) some
  | close => exact ⟨accepted, fun some => ⟨(spent some).1, rfl⟩⟩
  | discard =>
    obtain ⟨history, left, shut⟩ := state.discard_spec
    have delivered : state.discard.delivered = state.delivered := by
      simp [Delivery.delivered, history, Passage.delivered?]
    have discarded : state.discard.discarded = state.discarded ++ state.channel.buffer := by
      simp [Delivery.discarded, history, Passage.dropped]
    constructor
    · show state.discard.delivered ++ state.discard.discarded ++ state.discard.channel.buffer =
        state.callers.accepted
      rw [delivered, discarded, left, List.append_nil, ← List.append_assoc, accepted]
    · exact fun _ => ⟨left, shut⟩

theorem run_keeps {Keeps : Delivery α → Prop}
    (stepKeeps : ∀ state move, Keeps state → Keeps (state.step move))
    {state : Delivery α} (holds : Keeps state) (moves : List (Move α)) :
    Keeps (state.run moves) := by
  induction moves generalizing state with
  | nil => exact holds
  | cons move rest inductionHypothesis => exact inductionHypothesis (stepKeeps state move holds)

theorem run_listed (config : QueueConfig) (moves : List (Move α)) :
    ((create config).run moves).Listed :=
  run_keeps step_listed ⟨.empty, rfl⟩ moves

theorem run_ordered (config : QueueConfig) (moves : List (Move α)) :
    ((create config).run moves).Ordered :=
  run_keeps step_ordered ⟨rfl, fun some => absurd rfl some⟩ moves

end Delivery

end WorkHost
