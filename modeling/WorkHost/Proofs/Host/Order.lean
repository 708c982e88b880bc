import WorkHost.Proofs.Host.Conservation
import WorkHost.Proofs.Queue.Delivery
import WorkHost.Proofs.Queue.Producers

/-!
Contract: items are started in the order in which they were accepted.

What the worker has started is the beginning of what was accepted (`started_isPrefix`).
A producer that makes its calls one after the other therefore sees its own items started
in the order of its calls (`run_inTurn`).
-/

namespace WorkHost.Interplay

variable {α : Type}

theorem conclude_callers (state : Interplay α) (result : ExecutionResult) :
    (state.conclude result).callers = state.callers := by
  unfold conclude
  split <;> rfl

/-- The items of one producer among those that were started. -/
def startedBy (state : Interplay α) (owner : Ticket → Nat) (producer : Nat) : List (Call α) :=
  state.record.started.filter fun call => owner call.number = producer

variable [Queued α]

/-- No producer makes a call while another call of its own waits. -/
def Sequential (owner : Ticket → Nat) (state : Interplay α) : List (Move α) → Prop
  | [] => True
  | .traffic move :: rest =>
    state.traffic.Patient owner move ∧ Sequential owner (state.step (.traffic move)) rest
  | move :: rest => Sequential owner (state.step move) rest

theorem work_callers (state : Interplay α) (mishap : Option String) :
    (state.work mishap).callers = state.callers := by
  rcases state.work_cases mishap with ⟨_, same⟩ | ⟨stride, _, _, same | ⟨_, message, _, same⟩⟩
  · rw [same]
  · rw [same]
    rfl
  · rw [same]
    rfl

theorem run_inTurn {owner : Ticket → Nat} {state : Interplay α} (reached : state.Reached)
    (inTurn : state.callers.InTurn owner) (moves : List (Move α))
    (sequential : Sequential owner state moves) : (state.run moves).callers.InTurn owner := by
  induction moves generalizing state with
  | nil => exact inTurn
  | cons move rest inductionHypothesis =>
    have onward := inductionHypothesis (reached.step move)
    cases move with
    | traffic move =>
      obtain ⟨patient, later⟩ := sequential
      exact onward (Traffic.step_inTurn reached.sound.numbered inTurn move patient) later
    | stop => exact onward inTurn sequential
    | conclude result =>
      exact onward ((state.conclude_callers result).symm ▸ inTurn) sequential
    | elapse milliseconds => exact onward inTurn sequential
    | work mishap => exact onward ((state.work_callers mishap).symm ▸ inTurn) sequential

theorem Reached.started_isPrefix {state : Interplay α} (reached : state.Reached) :
    state.record.started <+: state.callers.accepted := by
  have conserved := reached.conserved
  rw [conserved.accepted, conserved.taken, List.append_assoc, List.append_assoc]
  exact List.prefix_append _ _

theorem Reached.startedBy_increasing {state : Interplay α} (reached : state.Reached)
    {owner : Ticket → Nat} (inTurn : state.callers.InTurn owner) (producer : Nat) :
    (state.startedBy owner producer).Pairwise fun earlier later =>
      earlier.number < later.number := by
  have ordered := inTurn.accepted.sublist reached.started_isPrefix.sublist
  refine (ordered.sublist List.filter_sublist).imp_of_mem ?_
  intro earlier later first second before
  have firstMade := (List.mem_filter.mp first).2
  have secondMade := (List.mem_filter.mp second).2
  simp only [decide_eq_true_eq] at firstMade secondMade
  exact before (firstMade.trans secondMade.symm)

/-- A queue among its callers and its receiver is a first-in first-out list. A worker starts
items in the order in which they were accepted, and those of a producer that makes its
calls one after the other in the order of the calls. -/
theorem queue_is_fifo (config : QueueConfig) (moves : List (Delivery.Move α))
    (hostMoves : List (Move α)) :
    let queue := (Delivery.create config).run moves
    let host := (create config).run hostMoves
    (queue.delivered ++ queue.discarded ++ queue.channel.buffer = queue.callers.accepted ∧
        queue.history.filterMap Passage.accepted? = queue.callers.accepted ∧
        Fifo queue.history queue.channel.buffer) ∧
      (∀ call rest, queue.channel.buffer = call :: rest →
        (queue.step (.dequeue false)).delivered = queue.delivered ++ [call]) ∧
      (queue.channel.closeAndDiscard.1 = queue.channel.buffer ∧
        (queue.step .discard).discarded = queue.discarded ++ queue.channel.buffer) ∧
      host.record.started <+: host.callers.accepted ∧
      ∀ owner, Sequential owner (create config) hostMoves → ∀ producer,
        (host.startedBy owner producer).Pairwise fun earlier later =>
          earlier.number < later.number := by
  intro queue host
  have listed : queue.Listed := Delivery.run_listed config moves
  have ordered : queue.Ordered := Delivery.run_ordered config moves
  have reached : host.Reached := reached_run config hostMoves
  have discards : queue.channel.closeAndDiscard.1 = queue.channel.buffer :=
    queue.channel.closeAndDiscard_spec.1
  refine ⟨⟨ordered.accepted, listed.accepted, listed.fifo⟩, ?_, ⟨discards, ?_⟩,
    reached.started_isPrefix, ?_⟩
  · intro call rest buffer
    have history := (queue.dequeue_of_buffer buffer).1
    show (queue.dequeue false).history.filterMap _ = _
    rw [history, List.filterMap_append]
    rfl
  · have history := queue.discard_spec.1
    show queue.discard.history.flatMap _ = _
    rw [history, List.flatMap_append, List.flatMap_singleton]
    rfl
  · intro owner sequential producer
    have inTurn := run_inTurn (reached_create config) Callers.fresh_inTurn hostMoves sequential
    exact reached.startedBy_increasing inTurn producer

end WorkHost.Interplay
