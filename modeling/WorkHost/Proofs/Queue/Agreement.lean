import WorkHost.Proofs.Queue.Bounded
import WorkHost.Proofs.Queue.Paths

/-!
Contract: the ways to enqueue agree, in the long run as well as at once.

What the ways differ in is waiting. A call whose token never fires waits as one without a
token: to take the token out of all calls commutes with every move (`Delivery.run_without`).
One whose token has fired can only give up (`Traffic.GivenUp`). With what the ways have in
common this is `enqueue_paths_agree`.
-/

namespace WorkHost

/-! ## A token that never fires -/

section Without

variable {α : Type}

/-- The same waiting call, without the token. -/
def Waiter.without (token : Nat) (waiter : Waiter α) : Waiter α :=
  if waiter.token = some token then { waiter with token := none } else waiter

@[simp]
theorem Waiter.without_call (token : Nat) (waiter : Waiter α) :
    (waiter.without token).call = waiter.call := by
  unfold without
  split <;> rfl

def Route.without (token : Nat) : Route → Route
  | .cancellable other => if other = token then .waiting else .cancellable other
  | route => route

theorem Waiter.without_mk (token : Nat) (call : Call α) (route : Route) :
    (Waiter.mk call route.token?).without token = ⟨call, (route.without token).token?⟩ := by
  cases route with
  | waiting | immediate => rfl
  | cancellable other =>
    by_cases same : other = token
    · simp [without, Route.without, Route.token?, same]
    · simp [without, Route.without, Route.token?, same]

namespace Callers

def without (token : Nat) (callers : Callers α) : Callers α :=
  { callers with waiters := callers.waiters.map (Waiter.without token) }

variable {token : Nat} {callers : Callers α}

theorem isFired_without (unfired : callers.isFired (some token) = false) (waiter : Waiter α) :
    (callers.without token).isFired (waiter.without token).token =
      callers.isFired waiter.token := by
  unfold Waiter.without
  split
  · rename_i same
    rw [same, unfired]
    rfl
  · rfl

theorem find?_without (number : Ticket) :
    (callers.without token).find? number = (callers.find? number).map (Waiter.without token) := by
  simp only [find?, without, List.find?_map, Function.comp_def, Waiter.without_call]

theorem enter_without (waiter : Waiter α) (progress : Enqueueing) :
    (callers.enter waiter progress).without token =
      (callers.without token).enter (waiter.without token) progress := by
  cases progress with
  | done result => simp [enter, finish, without]
  | waiting => simp [enter, without]

theorem leave_without (number : Ticket) :
    (callers.leave number).without token = (callers.without token).leave number := by
  simp only [leave, without, List.filter_map, Function.comp_def, Waiter.without_call]

theorem proceed_without (waiter : Waiter α) (progress : Enqueueing) :
    (callers.proceed waiter progress).without token =
      (callers.without token).proceed (waiter.without token) progress := by
  cases progress with
  | done result =>
    have left : (callers.leave waiter.call.number).without token =
        (callers.without token).leave waiter.call.number := leave_without _
    simp only [proceed, Waiter.without_call, ← left]
    rfl
  | waiting => rfl

end Callers

namespace Traffic

/-- The same moment, if the calls with the token had been made without it. -/
def without (token : Nat) (traffic : Traffic α) : Traffic α :=
  { traffic with callers := traffic.callers.without token }

def Move.without (token : Nat) : Move α → Move α
  | .call route item => .call (route.without token) item
  | move => move

variable {token : Nat} {traffic : Traffic α}

@[simp]
theorem without_queue : (traffic.without token).queue = traffic.queue := rfl

theorem abandon_without (waiter : Waiter α) :
    (traffic.abandon waiter).without token =
      (traffic.without token).abandon (waiter.without token) := by
  simp only [abandon, Waiter.without_call]
  exact congrArg (Traffic.mk _) (Callers.leave_without _)

variable [Queued α]

theorem attempt_without (unfired : traffic.callers.isFired (some token) = false) (route : Route)
    (call : Call α) :
    (traffic.without token).attempt (route.without token) call = traffic.attempt route call := by
  cases route with
  | waiting | immediate => rfl
  | cancellable other =>
    by_cases same : other = token
    · subst same
      simp only [attempt, Route.without, if_true, Route.token?, unfired,
        TaskQueue.enqueueWithCancel_unfired]
      rfl
    · simp only [Route.without, same, if_false]
      rfl

theorem call_without (unfired : traffic.callers.isFired (some token) = false) (route : Route)
    (item : α) :
    (traffic.call route item).without token =
      (traffic.without token).call (route.without token) item := by
  have issued : (traffic.without token).callers.issued = traffic.callers.issued := rfl
  simp only [call, issued, attempt_without unfired, ← Waiter.without_mk]
  exact congrArg (Traffic.mk _) (Callers.enter_without _ _)

theorem look_without (unfired : traffic.callers.isFired (some token) = false) (waiter : Waiter α) :
    (traffic.look waiter).without token =
      (traffic.without token).look (waiter.without token) := by
  simp only [look, Waiter.without_call]
  rw [show (traffic.without token).callers = traffic.callers.without token from rfl,
    Callers.isFired_without unfired]
  exact congrArg (Traffic.mk _) (Callers.proceed_without _ _)

/-- As long as it has not fired, the token makes no difference to any move. -/
theorem step_without (unfired : traffic.callers.isFired (some token) = false) (move : Move α) :
    (traffic.step move).without token = (traffic.without token).step (move.without token) := by
  have found (number : Ticket) :
      (traffic.without token).callers.find? number =
        (traffic.callers.find? number).map (Waiter.without token) :=
    Callers.find?_without number
  cases move with
  | call route item =>
    simp only [step, Move.without, without_queue, apply_ite (without token),
      call_without unfired]
    rfl
  | look number =>
    simp only [step, Move.without, found]
    cases traffic.callers.find? number with
    | none => rfl
    | some waiter => exact look_without unfired waiter
  | abandon number =>
    simp only [step, Move.without, found]
    cases traffic.callers.find? number with
    | none => rfl
    | some waiter => exact abandon_without waiter
  | fire other => rfl
  | cloneHandle =>
    simp only [step, Move.without, without_queue, apply_ite (without token)]
    rfl
  | dropHandle =>
    have nobody : (traffic.without token).callers.waiters ≠ [] ↔ traffic.callers.waiters ≠ [] :=
      not_congr List.map_eq_nil_iff
    simp only [step, Move.without, without_queue, nobody, apply_ite (without token)]
    rfl

theorem isFired_step {token : Option Nat} (move : Move α)
    (calm : ∀ other, move = .fire other → token ≠ some other) :
    (traffic.step move).callers.isFired token = traffic.callers.isFired token := by
  cases move with
  | call route item =>
    simp only [step]
    split
    · rfl
    · exact Callers.isFired_enter _ _ _ _
  | look number =>
    simp only [step]
    cases traffic.callers.find? number with
    | none => rfl
    | some waiter => exact Callers.isFired_proceed _ _ _ _
  | abandon number =>
    simp only [step]
    cases traffic.callers.find? number with
    | none => rfl
    | some waiter => rfl
  | fire other =>
    have differs := calm other rfl
    cases token with
    | none => rfl
    | some token =>
      have apart : token ≠ other := fun same => differs (congrArg some same)
      simp [step, fire, Callers.isFired, apart]
  | cloneHandle =>
    simp only [step]
    split <;> rfl
  | dropHandle =>
    simp only [step]
    split <;> rfl

end Traffic

namespace Delivery

def without (token : Nat) (state : Delivery α) : Delivery α :=
  { state with traffic := state.traffic.without token }

def Move.without (token : Nat) : Move α → Move α
  | .traffic move => .traffic (move.without token)
  | move => move

variable [Queued α] {token : Nat} {state : Delivery α}

theorem step_without (unfired : state.callers.isFired (some token) = false) (move : Move α) :
    (state.step move).without token = (state.without token).step (move.without token) := by
  cases move with
  | traffic move =>
    have same : (state.without token).traffic.step (move.without token) =
        (state.traffic.step move).without token := (Traffic.step_without unfired move).symm
    simp only [step, Move.without, pass, same]
    rfl
  | dequeue stopping =>
    have channel : (state.without token).channel = state.channel := rfl
    simp only [step, Move.without, dequeue, channel]
    split <;> rfl
  | close => rfl
  | discard => rfl

theorem isFired_step (move : Move α) (calm : move ≠ .traffic (.fire token)) :
    (state.step move).callers.isFired (some token) = state.callers.isFired (some token) := by
  cases move with
  | traffic move =>
    refine Traffic.isFired_step move ?_
    rintro other rfl same
    cases same
    exact calm rfl
  | dequeue stopping =>
    have traffic := state.dequeue_traffic stopping
    exact congrArg (fun traffic => traffic.callers.isFired (some token)) traffic
  | close | discard => rfl

theorem isFired_run (moves : List (Move α)) (calm : .traffic (.fire token) ∉ moves) :
    (state.run moves).callers.isFired (some token) = state.callers.isFired (some token) := by
  induction moves generalizing state with
  | nil => rfl
  | cons move rest inductionHypothesis =>
    obtain ⟨first, later⟩ := List.ne_and_not_mem_of_not_mem_cons calm
    exact (inductionHypothesis later).trans (isFired_step move first.symm)

/-- In a run in which it never fires the token makes no difference. -/
theorem run_without (unfired : state.callers.isFired (some token) = false) (moves : List (Move α))
    (calm : .traffic (.fire token) ∉ moves) :
    (state.run moves).without token =
      (state.without token).run (moves.map (Move.without token)) := by
  induction moves generalizing state with
  | nil => rfl
  | cons move rest inductionHypothesis =>
    obtain ⟨first, later⟩ := List.ne_and_not_mem_of_not_mem_cons calm
    have still := (isFired_step move first.symm).trans unfired
    rw [List.map_cons]
    show ((state.step move).run rest).without token = ((state.without token).step _).run _
    rw [inductionHypothesis still later, step_without unfired]

/-- A call with the token fares as one without a token. -/
theorem run_unfired (unfired : state.callers.isFired (some token) = false) (item : α)
    (more : List (Move α)) (calm : .traffic (.fire token) ∉ more) :
    let plain := state.run (.traffic (.call .waiting item) :: more)
    let cancellable := state.run (.traffic (.call (.cancellable token) item) :: more)
    cancellable.traffic.queue = plain.traffic.queue ∧
      cancellable.history = plain.history ∧
      cancellable.callers.returned = plain.callers.returned ∧
      cancellable.callers.waiters.map Waiter.call = plain.callers.waiters.map Waiter.call := by
  intro plain cancellable
  have fares (route : Route) (same : route.without token = .waiting) :
      (state.run (.traffic (.call route item) :: more)).without token =
        (state.without token).run
          (.traffic (.call .waiting item) :: more.map (Move.without token)) := by
    have quiet : .traffic (.fire token) ∉ (.traffic (.call route item) :: more : List (Move α)) :=
      List.not_mem_cons_of_ne_of_not_mem nofun calm
    rw [run_without unfired _ quiet, List.map_cons, Move.without, Traffic.Move.without, same]
  have same : cancellable.without token = plain.without token :=
    (fares (.cancellable token) (if_pos rfl)).trans (fares .waiting rfl).symm
  have calls (state : Delivery α) :
      (state.without token).callers.waiters.map Waiter.call =
        state.callers.waiters.map Waiter.call := by
    show (state.callers.waiters.map (Waiter.without token)).map Waiter.call = _
    rw [List.map_map]
    exact List.map_congr_left fun waiter _ => waiter.without_call token
  refine ⟨congrArg (fun state => state.traffic.queue) same,
    congrArg (fun state => state.history) same,
    congrArg (fun state => state.callers.returned) same, ?_⟩
  rw [← calls cancellable, same, calls plain]

end Delivery

end Without

/-! ## A token that has fired -/

namespace Traffic

variable {α : Type}

/-- The token of a call has fired before the call has returned anything. -/
structure GivenUp (waiter : Waiter α) (callers : Callers α) : Prop where
  fired : callers.isFired waiter.token = true
  issued : waiter.call.number < callers.issued
  single : ∀ other ∈ callers.waiters, other.call.number = waiter.call.number → other = waiter
  answer : ∀ result, (waiter.call, result) ∈ callers.returned → result = .error .enqueueCancelled

namespace GivenUp

variable {waiter other : Waiter α} {callers : Callers α}

theorem enter (givenUp : GivenUp waiter callers) (isNew : other.call.number = callers.issued)
    (progress : Enqueueing) : GivenUp waiter (callers.enter other progress) := by
  have differs : waiter.call.number ≠ other.call.number := isNew ▸ Nat.ne_of_lt givenUp.issued
  refine ⟨(Callers.isFired_enter ..).trans givenUp.fired, ?_, ?_, ?_⟩
  · rw [Callers.issued_enter]
    exact Nat.lt_succ_of_lt givenUp.issued
  · intro another member same
    rcases Callers.mem_waiters_enter member with old | rfl
    · exact givenUp.single another old same
    · exact absurd same.symm differs
  · intro result member
    rcases Callers.mem_returned_enter member with old | isNew
    · exact givenUp.answer result old
    · exact absurd (congrArg Call.number isNew) differs

theorem proceed (givenUp : GivenUp waiter callers) (waits : other ∈ callers.waiters)
    {progress : Enqueueing}
    (gives : other = waiter → progress = .done (.error .enqueueCancelled)) :
    GivenUp waiter (callers.proceed other progress) := by
  refine ⟨(Callers.isFired_proceed ..).trans givenUp.fired, ?_, ?_, ?_⟩
  · rw [Callers.issued_proceed]
    exact givenUp.issued
  · exact fun another member => givenUp.single another (Callers.mem_waiters_proceed member)
  · intro result member
    cases progress with
    | waiting => exact givenUp.answer result member
    | done given =>
      rcases List.mem_append.mp member with old | isNew
      · exact givenUp.answer result old
      · obtain ⟨sameCall, rfl⟩ := Prod.mk.inj (List.mem_singleton.mp isNew)
        have same := givenUp.single other waits (congrArg Call.number sameCall.symm)
        exact Enqueueing.done.inj (gives same)

theorem leave (givenUp : GivenUp waiter callers) (number : Ticket) :
    GivenUp waiter (callers.leave number) := by
  refine ⟨givenUp.fired, givenUp.issued, fun another member => ?_, givenUp.answer⟩
  exact givenUp.single another (List.mem_of_mem_filter member)

end GivenUp

variable [Queued α] {traffic : Traffic α} {waiter : Waiter α}

theorem outlook_of_fired (fired : traffic.callers.isFired waiter.token = true) :
    traffic.outlook waiter = .done (.error .enqueueCancelled) := by
  simp only [outlook, fired, TaskQueue.resumeWithCancel, if_true]

theorem step_givenUp (givenUp : GivenUp waiter traffic.callers) (move : Move α) :
    GivenUp waiter (traffic.step move).callers := by
  cases move with
  | call route item =>
    simp only [step]
    split
    · exact givenUp
    · exact givenUp.enter rfl _
  | look number =>
    simp only [step]
    cases found : traffic.callers.find? number with
    | none => exact givenUp
    | some other =>
      rw [Option.elim_some, look_callers]
      refine givenUp.proceed (Callers.mem_waiters_of_find? found) ?_
      rintro rfl
      exact outlook_of_fired givenUp.fired
  | abandon number =>
    simp only [step]
    cases traffic.callers.find? number with
    | none => exact givenUp
    | some other => exact givenUp.leave _
  | fire token =>
    exact ⟨Callers.isFired_cons traffic.callers token givenUp.fired, givenUp.issued,
      givenUp.single, givenUp.answer⟩
  | cloneHandle | dropHandle =>
    simp only [step]
    split
    · exact givenUp
    · exact givenUp

end Traffic

namespace Delivery

variable {α : Type} [Queued α]

/-- A call whose token has fired gives up as soon as it looks, and never anything else. -/
theorem run_givenUp {state : Delivery α} (attended : state.Attended) {waiter : Waiter α}
    (member : waiter ∈ state.callers.waiters)
    (fired : state.callers.isFired waiter.token = true) (more : List (Move α))
    {result : Except Failure WorkId}
    (returned : (waiter.call, result) ∈ (state.run more).callers.returned) :
    result = .error .enqueueCancelled := by
  have givenUp : Traffic.GivenUp waiter state.callers := by
    refine ⟨fired, ?_, fun other waits => Callers.waiter_eq attended.numbered waits member, ?_⟩
    · exact attended.numbered.below _ (List.mem_append_right _ (List.mem_map_of_mem member))
    · intro result returned
      have apart := (List.nodup_append.mp attended.numbered.distinct).2.2
      exact absurd rfl (apart _ (List.mem_map_of_mem returned) _ (List.mem_map_of_mem member))
  have kept : Traffic.GivenUp waiter (state.run more).callers :=
    @run_keeps _ _ (fun state => Traffic.GivenUp waiter state.callers)
      (fun state move givenUp =>
        @step_keeps _ _ (fun _ callers => Traffic.GivenUp waiter callers) state
          (Traffic.step_givenUp givenUp) (fun _ _ => id) (fun _ _ => id) givenUp move)
      _ givenUp more
  exact kept.answer result returned

theorem look_of_fired {state : Delivery α} (attended : state.Attended) {waiter : Waiter α}
    (member : waiter ∈ state.callers.waiters)
    (fired : state.callers.isFired waiter.token = true) :
    let looked := state.step (.traffic (.look waiter.call.number))
    looked.callers.returned =
        state.callers.returned ++ [(waiter.call, .error .enqueueCancelled)] ∧
      looked.channel.buffer = state.channel.buffer := by
  intro looked
  have found : state.traffic.callers.find? waiter.call.number = some waiter :=
    Callers.find?_eq_some attended.numbered member
  have same : looked.traffic = state.traffic.look waiter := by
    show state.traffic.step (.look waiter.call.number) = _
    rw [Traffic.step, found, Option.elim_some]
  have outlook : state.traffic.outlook waiter = .done (.error .enqueueCancelled) :=
    Traffic.outlook_of_fired fired
  constructor
  · show looked.traffic.callers.returned = _
    rw [same, Traffic.look_callers, outlook]
    rfl
  · have buffer := (state.traffic.look_answered waiter).buffer
    rw [← Traffic.outlook, outlook] at buffer
    show looked.traffic.queue.channel.buffer = _
    rw [same, buffer]
    exact List.append_nil _

/-- Whatever has happened to a queue, its ways to enqueue agree: at once, as far as they do
not wait, and in the long run. A call whose token never fires fares as one without a token.
A call whose token has fired can only give up, and puts nothing in. In every move at most
one call returns; it puts its item at the end of the buffer and returns the item's
identifier, or it fails and puts nothing in. -/
theorem enqueue_paths_agree (config : QueueConfig) (moves : List (Move α)) :
    let state : Delivery α := (create config).run moves
    let queue := state.traffic.queue
    queue.policy = config.overflow ∧
    queue.PathsAgree ∧
    (config.overflow = .reject → ∀ route item,
      state.traffic.step (.call route item) = state.traffic.step (.call .immediate item)) ∧
    (∀ token item more, .traffic (.fire token) ∉ moves → .traffic (.fire token) ∉ more →
      let plain := state.run (.traffic (.call .waiting item) :: more)
      let cancellable := state.run (.traffic (.call (.cancellable token) item) :: more)
      cancellable.traffic.queue = plain.traffic.queue ∧
        cancellable.history = plain.history ∧
        cancellable.callers.returned = plain.callers.returned ∧
        cancellable.callers.waiters.map Waiter.call = plain.callers.waiters.map Waiter.call) ∧
    (∀ waiter ∈ state.callers.waiters, state.callers.isFired waiter.token = true →
      let looked := state.step (.traffic (.look waiter.call.number))
      looked.callers.returned =
          state.callers.returned ++ [(waiter.call, .error .enqueueCancelled)] ∧
        looked.channel.buffer = state.channel.buffer ∧
        ∀ more result, (waiter.call, result) ∈ (state.run more).callers.returned →
          result = .error .enqueueCancelled) ∧
    ∀ move, Traffic.Returns state.traffic (state.traffic.step move) := by
  intro state queue
  have attended : state.Attended := run_attended config moves
  have policy : queue.policy = config.overflow := run_policy config moves
  have bounded : queue.len ≤ queue.capacity := by
    obtain ⟨metered, meters⟩ := attended.metered
    have balance := meters.balance
    show state.channel.len ≤ state.channel.capacity
    omega
  refine ⟨policy, TaskQueue.pathsAgree bounded, ?_, ?_, ?_, state.traffic.step_returns⟩
  · intro rejects
    exact Traffic.step_of_reject (policy.trans rejects)
  · intro token item more calm later
    exact run_unfired (isFired_run moves calm) item more later
  · intro waiter member fired looked
    obtain ⟨returned, buffer⟩ := look_of_fired attended member fired
    exact ⟨returned, buffer, fun more result => run_givenUp attended member fired more⟩

end Delivery

end WorkHost
