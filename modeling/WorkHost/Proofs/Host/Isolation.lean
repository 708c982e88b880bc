import WorkHost.Proofs.Host.Order
import WorkHost.Proofs.Host.Shift

/-!
Contract: no item changes what becomes of another.

A shift that has come to its end has told of every accepted item what its errand alone
accounts for (`Kept.story`). Once the last handle is gone a shift does come to its end:
what is left to do (`Shift.left`) never grows, and at any time one kind of move is
called for that makes it less (`Shift.step_left`), so that rounds in which every kind
occurs wear it down (`Shift.run_rounds`).
-/

namespace WorkHost

variable {factory : ScopeFactory}

/-- How many moves and milliseconds an errand takes. -/
def Errand.cost (errand : Errand factory) : Nat :=
  (errand.work.item.steps.map Step.cost).sum + 1

theorem ItemRun.cost_ofWork (errand : Errand factory) (now : Nat) :
    (ofWork errand.work).cost now = errand.cost := Nat.add_comm _ _

/-- What is left to do about the item in flight and for the worker until it has ended; no
phase with a request to stop is among them. -/
def Phase.left (now : Nat) (task : Option ItemRun) : Phase (Call (Errand factory)) → Nat
  | .launching call => call.item.cost + 11
  | .executing _ => task.elim 9 fun run => run.cost now + 10
  | .reporting .. => 8
  | .starting | .reported => 7
  | .dequeuing => 6
  | .leaving => 5
  | .sealing => 4
  | .discarding _ => 3
  | .summing _ => 2
  | .finishing => 1
  | _ => 0

/-- What is left to do about the items that are buffered. -/
def Channel.left (channel : Channel (Call (Errand factory))) : Nat :=
  (channel.buffer.map fun call => call.item.cost + 6).sum

/-- Time that passes brings the end of a wait for the clock nearer. -/
theorem RunWait.cost_elapse (wait : RunWait) (now milliseconds : Nat) :
    wait.cost (now + milliseconds) < wait.cost now ∨
      (wait.cost (now + milliseconds) = wait.cost now ∧
        wait.isOver (now + milliseconds) = wait.isOver now ∧
        (wait.isOver now = false → milliseconds = 0)) := by
  cases wait with
  | clock deadline =>
    simp only [cost, isOver, decide_eq_decide, decide_eq_false_iff_not]
    omega
  | _ =>
    refine Or.inr ⟨rfl, rfl, fun waits => ?_⟩
    cases waits

/-- Who is to make the next move. -/
inductive Need where
  | worker
  | task
  | clock
deriving DecidableEq

namespace Shift

/-- The errands whose items were accepted, in the order in which they were. -/
def accepted (shift : Shift factory) : List (Errand factory) :=
  shift.interplay.callers.accepted.map Call.item

/-- The events so far, without what the clock has to do with them. -/
def told (shift : Shift factory) : List EventKind :=
  shift.interplay.record.events.map EventKind.timeless

def hasEnded (shift : Shift factory) : Prop := shift.interplay.host.worker.phase = .ended

/-- Nobody holds a handle of the queue. -/
def IsDeserted (shift : Shift factory) : Prop := shift.interplay.channel.handles = 0

def left (shift : Shift factory) : Nat :=
  shift.interplay.host.worker.phase.left shift.interplay.now shift.task +
    shift.interplay.channel.left

def need (shift : Shift factory) : Need :=
  match shift.task with
  | none => .worker
  | some run => bif run.wait.isOver shift.interplay.now then .task else .clock

/-- Whether a move is the one that is called for. -/
def Move.serves : Need → Move factory → Bool
  | .worker, .work _ => true
  | .task, .perform anew => anew
  | .clock, .elapse milliseconds => 0 < milliseconds
  | _, _ => false

/-- Every kind of move occurs. -/
def IsFair (round : List (Move factory)) : Prop :=
  ∀ need, ∃ move ∈ round, move.serves need = true

variable {shift : Shift factory}

/-! ## At the end -/

theorem Kept.accepted_eq (kept : shift.Kept) (ended : shift.hasEnded) :
    shift.interplay.callers.accepted = shift.interplay.record.started := by
  have phase : shift.interplay.host.worker.phase = .ended := ended
  have conserved := kept.reached.conserved
  have lifecycle := kept.reached.sound.lifecycle
  simp only [Lifecycle, phase] at lifecycle
  rw [conserved.accepted, conserved.taken, kept.whole, lifecycle.2.1, phase]
  simp [Phase.held]

/-- At the end everything is told of every item. -/
theorem Kept.account_eq (kept : shift.Kept) (ended : shift.hasEnded) :
    shift.interplay.record.lives.account = shift.accepted.flatMap Errand.account := by
  have custody := kept.reached.tended.custody
  rw [ended] at custody
  have judged : ∀ life ∈ shift.interplay.record.lives.toList,
      life.account = life.call.item.account := by
    apply Lives.forall_toList
    · intro life member
      exact if_pos (kept.reached.tended.past life member)
    · intro life member
      exact if_pos (custody life member)
  rw [accepted, kept.accepted_eq ended, Record.started, List.map_map, List.flatMap_map]
  exact List.flatMap_congr judged

/-- What is told at the end. -/
theorem Kept.story (kept : shift.Kept) (ended : shift.hasEnded) :
    shift.interplay.host.worker.result? = some .graceful ∧
      shift.told =
        [.workerStarted] ++ shift.accepted.flatMap Errand.account ++ [.workerStopped] := by
  constructor
  · rw [Worker.result?, ended, kept.reached.graceful_of_calm kept.calm]
  · rw [Shift.told, kept.told.events, ended, Phase.story, kept.account_eq ended]
    rfl

/-! ## Getting there -/

/-- An item that is executed and has no task any more has ended, and the other way round. -/
theorem Kept.ended_iff (kept : shift.Kept) {flight : Flight}
    (phase : shift.interplay.host.worker.phase = .executing flight) :
    shift.interplay.host.ended.isSome = true ↔ shift.task = none := by
  have employs := kept.employs
  rw [phase] at employs
  obtain ⟨life, _, _, employed⟩ := employs
  generalize shift.interplay.host.ended = ended at employed ⊢
  generalize shift.task = task at employed ⊢
  cases employed <;> simp

/-- A worker that has to make the next move can make it. -/
theorem step_ne_none (kept : shift.Kept) (deserted : shift.IsDeserted) (idle : shift.task = none)
    (live : ¬ shift.hasEnded) :
    shift.interplay.host.worker.step shift.interplay.view shift.interplay.channel ≠ none := by
  have lifecycle := kept.reached.sound.lifecycle
  rw [kept.calm] at lifecycle
  have steady := lifecycle.isStopping_of_calm
  unfold Worker.step
  cases phase : shift.interplay.host.worker.phase with
  | ended => exact absurd phase live
  | closing _ | announcing _ | draining _ _ | aborting _ _ | dead _ =>
    simp [phase, Phase.isStopping] at steady
  | executing flight =>
    obtain ⟨result, ended⟩ := Option.isSome_iff_exists.mp ((kept.ended_iff phase).mpr idle)
    have seen : shift.interplay.view.ended = some result := ended
    simp [seen, Worker.moveTo]
  | dequeuing =>
    have gone : shift.interplay.channel.handles = 0 := deserted
    cases buffer : shift.interplay.channel.buffer with
    | nil => simp [Worker.dequeue, kept.calm, Channel.receive, buffer, gone, Worker.moveTo]
    | cons call rest => simp [Worker.dequeue, kept.calm, Channel.receive, buffer]
  | discarding count =>
    dsimp only
    split <;> simp [Worker.moveTo]
  | _ => simp [Worker.moveTo, Worker.close, Worker.report, kept.calm]

/-- Every step of the worker leaves less to do. -/
theorem advance_left {stride : Stride (Call (Errand factory))} (kept : shift.Kept)
    (advance : Advance shift.interplay.view shift.interplay.host.worker shift.interplay.channel
      stride) :
    stride.worker.phase.left shift.interplay.now (Command.hire shift.task stride.command) +
      stride.channel.left < shift.left := by
  have lifecycle := kept.reached.sound.lifecycle
  have dropped := advance.dropped_of_calm kept.calm lifecycle
  rw [kept.calm] at lifecycle
  have steady := lifecycle.isStopping_of_calm
  unfold left
  cases advance with
  | take phase _ received =>
    obtain ⟨buffer, _⟩ := Channel.receive_item received
    simp only [phase, Phase.left, Channel.left, buffer, List.map_cons, List.sum_cons]
    omega
  | launch phase =>
    simp [phase, Stride.plain, Phase.left, Command.hire, ItemRun.cost_ofWork]
  | land phase ended =>
    have idle : shift.task = none := (kept.ended_iff phase).mp (Option.isSome_of_eq_some ended)
    simp [phase, idle, Stride.plain, Phase.left]
  | begin phase | desert phase _ _ | report phase | again phase _ | leave phase _ | shut phase
  | exhaust phase _ | sum phase | stop phase =>
    simp [phase, Stride.plain, Phase.left, Channel.left, Channel.close]
  | heed phase stopping | interrupt phase _ stopping | quit phase stopping
  | obey phase stopping => simp [kept.calm] at stopping
  | close phase | announce phase _ | resume phase _ | settle phase _ | cut phase _ _
  | yield phase _ | detach phase _ _ =>
    simp [phase, Phase.isStopping] at steady
  | discard phase received => cases dropped

/-- How a move leaves a shift that nobody has a handle of: less is left to do, or the move
was not called for and the one that was still is. -/
def Wears (shift next : Shift factory) (move : Move factory) : Prop :=
  next.left < shift.left ∨
    (next.left = shift.left ∧ next.need = shift.need ∧
      (move.serves shift.need = true → shift.hasEnded))

theorem Wears.refl {move : Move factory} (idle : move.serves shift.need = true → shift.hasEnded) :
    shift.Wears shift move := Or.inr ⟨rfl, rfl, idle⟩

theorem work_wears (kept : shift.Kept) (deserted : shift.IsDeserted) (mishap : Option String) :
    shift.Wears (shift.work mishap) (.work mishap) := by
  rcases work_cases kept mishap with ⟨stuck, same⟩ | ⟨stride, advance, _, same⟩
  · rw [same]
    refine .refl fun serves => ?_
    cases task : shift.task with
    | some run =>
      unfold need at serves
      rw [task] at serves
      dsimp only at serves
      cases passed : run.wait.isOver shift.interplay.now <;> simp [passed, Move.serves] at serves
    | none =>
      by_contra live
      exact step_ne_none kept deserted task live stuck
  · rw [same]
    exact Or.inl (advance_left kept advance)

theorem traffic_wears (kept : shift.Kept) (deserted : shift.IsDeserted)
    (move : Traffic.Move (Errand factory)) :
    shift.Wears (shift.step (.traffic move)) (.traffic move) := by
  have queue := Traffic.step_queue_of_gone kept.reached.sound.staffed deserted move
  have channel : (shift.step (.traffic move)).interplay.channel = shift.interplay.channel :=
    congrArg TaskQueue.channel queue
  refine Or.inr ⟨?_, rfl, fun serves => ?_⟩
  · show _ + (shift.step (.traffic move)).interplay.channel.left = _
    rw [channel]
    rfl
  · cases need : shift.need <;> simp [need, Move.serves] at serves

theorem elapse_wears (kept : shift.Kept) (milliseconds : Nat) :
    shift.Wears (shift.step (.elapse milliseconds)) (.elapse milliseconds) := by
  unfold Wears left need
  dsimp only [step, Interplay.step, Interplay.channel]
  cases task : shift.task with
  | none =>
    refine Or.inr ⟨?_, rfl, nofun⟩
    cases shift.interplay.host.worker.phase <;> rfl
  | some run =>
    obtain ⟨flight, life, phase, _⟩ := kept.employed task
    simp only [phase, Phase.left, Option.elim, ItemRun.cost]
    rcases run.wait.cost_elapse shift.interplay.now milliseconds with less | ⟨same, passed, waits⟩
    · exact Or.inl (by omega)
    · refine Or.inr ⟨by omega, congrArg (cond · Need.task Need.clock) passed, fun serves => ?_⟩
      cases now : run.wait.isOver shift.interplay.now with
      | true => simp [now, Move.serves] at serves
      | false => simp [now, Move.serves, waits now] at serves

/-- When the task has ended, the worker is to take note of it. -/
theorem conclude_left (shift : Shift factory) (conclusion : Conclusion) :
    (shift.conclude conclusion).left =
      shift.interplay.host.worker.phase.left shift.interplay.now none +
        shift.interplay.channel.left := by
  unfold conclude Interplay.step Interplay.conclude
  cases ExecutionResult.ofConclusion? conclusion with
  | none => rfl
  | some result =>
    dsimp only
    split <;> rfl

theorem left_of_task {flight : Flight} {run : ItemRun} (task : shift.task = some run)
    (phase : shift.interplay.host.worker.phase = .executing flight) :
    shift.left = run.cost shift.interplay.now + 10 + shift.interplay.channel.left := by
  rw [left, task, phase]
  rfl

theorem need_of_task {run : ItemRun} (task : shift.task = some run) :
    shift.need = bif run.wait.isOver shift.interplay.now then .task else .clock := by
  rw [need, task]

/-- A task that goes on is as near to its end as what is left of its item says. -/
theorem Wears.of_run {flight : Flight} {run next : ItemRun} {move : Move factory}
    (task : shift.task = some run)
    (phase : shift.interplay.host.worker.phase = .executing flight) (journal : Journal)
    (wears : next.cost shift.interplay.now < run.cost shift.interplay.now ∨
      (next.cost shift.interplay.now = run.cost shift.interplay.now ∧
        next.wait.isOver shift.interplay.now = run.wait.isOver shift.interplay.now ∧
        (move.serves shift.need = true → shift.hasEnded))) :
    shift.Wears { shift with task := some next, journal } move := by
  have before := left_of_task task phase
  have after : ({ shift with task := some next, journal } : Shift factory).left =
      next.cost shift.interplay.now + 10 + shift.interplay.channel.left :=
    left_of_task rfl phase
  rcases wears with less | ⟨same, still, idle⟩
  · refine Or.inl ?_
    rw [before, after]
    omega
  · refine Or.inr ⟨?_, ?_, idle⟩
    · rw [before, after, same]
    · rw [need_of_task task, ← still]
      exact need_of_task rfl

theorem perform_wears (kept : shift.Kept) (anew : Bool) :
    shift.Wears (shift.perform anew) (.perform anew) := by
  unfold perform
  cases task : shift.task with
  | none => exact .refl fun serves => by simp [need, task, Move.serves] at serves
  | some run =>
    obtain ⟨flight, life, phase, _, _, serves⟩ := kept.employed task
    have cost : (run.refresh anew).cost shift.interplay.now = run.cost shift.interplay.now := by
      simp [ItemRun.cost]
    have need := need_of_task task
    dsimp only
    cases passed : run.wait.isOver shift.interplay.now with
    | false =>
      have waits : (run.refresh anew).wait.isOver shift.interplay.now = false := by simpa using passed
      rw [ItemRun.proceed_of_not_isOver waits]
      refine .of_run task phase _ (Or.inr ⟨cost, waits.trans passed.symm, fun called => ?_⟩)
      simp [need, passed, Move.serves] at called
    | true =>
      have ready : (run.refresh anew).wait.isOver shift.interplay.now = true := by simpa using passed
      have nears := ItemRun.proceed_nears (serves.refresh anew) ready shift.journal
      rw [cost] at nears
      generalize (run.refresh anew).proceed factory shift.interplay.now shift.journal = progress
        at nears ⊢
      obtain ⟨next | conclusion, journal⟩ := progress
      case goes =>
        apply Wears.of_run task phase journal
        rcases nears with less | ⟨tired, same, still⟩
        · exact Or.inl less
        · refine Or.inr ⟨same, still.trans passed.symm, fun called => ?_⟩
          simp [need, passed, Move.serves, ItemRun.not_anew_of_credit tired] at called
      case ends =>
        refine Or.inl ?_
        rw [left_of_task task phase, conclude_left]
        dsimp only
        rw [phase]
        simp only [Phase.left, Option.elim]
        omega

theorem step_wears (kept : shift.Kept) (deserted : shift.IsDeserted) (move : Move factory) :
    shift.Wears (shift.step move) move := by
  cases move with
  | traffic move => exact traffic_wears kept deserted move
  | elapse milliseconds => exact elapse_wears kept milliseconds
  | work mishap => exact work_wears kept deserted mishap
  | perform anew => exact perform_wears kept anew

/-! ## Rounds -/

theorem conclude_interplay (shift : Shift factory) (conclusion : Conclusion) :
    (shift.conclude conclusion).interplay = shift.interplay ∨
      ∃ result, (shift.conclude conclusion).interplay = shift.interplay.conclude result := by
  unfold conclude
  cases ExecutionResult.ofConclusion? conclusion with
  | none => exact Or.inl rfl
  | some result => exact Or.inr ⟨result, rfl⟩

/-- A step of a task leaves the interplay alone or ends the item in flight. -/
theorem perform_interplay (shift : Shift factory) (anew : Bool) :
    (shift.perform anew).interplay = shift.interplay ∨
      ∃ result, (shift.perform anew).interplay = shift.interplay.conclude result := by
  unfold perform
  cases shift.task with
  | none => exact Or.inl rfl
  | some run =>
    dsimp only
    generalize (run.refresh anew).proceed factory shift.interplay.now shift.journal = progress
    obtain ⟨next | conclusion, journal⟩ := progress
    case goes => exact Or.inl rfl
    case ends => exact conclude_interplay { shift with journal } conclusion

/-- Nothing is accepted any more by a queue without handles, and nobody gets a new one. -/
theorem step_deserted (kept : shift.Kept) (deserted : shift.IsDeserted) (move : Move factory) :
    (shift.step move).IsDeserted ∧ (shift.step move).accepted = shift.accepted := by
  cases move with
  | traffic move =>
    have queue := Traffic.step_queue_of_gone kept.reached.sound.staffed deserted move
    obtain ⟨items, effect⟩ := shift.interplay.traffic.step_effect move
    have nothing : items = [] := by
      have buffer := effect.buffer
      rw [queue, List.self_eq_append_right] at buffer
      exact buffer
    refine ⟨?_, ?_⟩
    · exact (congrArg (Channel.handles ∘ TaskQueue.channel) queue).trans deserted
    · have accepted := effect.accepted
      rw [nothing, List.append_nil] at accepted
      exact congrArg (List.map Call.item) accepted
  | elapse milliseconds => exact ⟨deserted, rfl⟩
  | work mishap =>
    rcases work_cases kept mishap with ⟨_, same⟩ | ⟨stride, advance, _, same⟩
    · rw [step, same]
      exact ⟨deserted, rfl⟩
    · rw [step, same]
      exact ⟨advance.handles.trans deserted, rfl⟩
  | perform anew =>
    rcases shift.perform_interplay anew with same | ⟨result, same⟩
    · unfold IsDeserted accepted
      rw [step, same]
      exact ⟨deserted, rfl⟩
    · unfold IsDeserted accepted
      rw [step, same, Interplay.conclude_callers]
      refine ⟨?_, rfl⟩
      unfold Interplay.conclude
      split <;> exact deserted

theorem run_deserted (kept : shift.Kept) (deserted : shift.IsDeserted)
    (moves : List (Move factory)) :
    (shift.run moves).IsDeserted ∧ (shift.run moves).accepted = shift.accepted := by
  induction moves generalizing shift with
  | nil => exact ⟨deserted, rfl⟩
  | cons move rest inductionHypothesis =>
    obtain ⟨still, same⟩ := step_deserted kept deserted move
    obtain ⟨stays, unchanged⟩ := inductionHypothesis (step_kept kept move) still
    exact ⟨stays, unchanged.trans same⟩

theorem left_eq_zero_iff (kept : shift.Kept) : shift.left = 0 ↔ shift.hasEnded := by
  have lifecycle := kept.reached.sound.lifecycle
  rw [kept.calm] at lifecycle
  have steady := lifecycle.isStopping_of_calm
  unfold left hasEnded
  cases phase : shift.interplay.host.worker.phase with
  | ended =>
    simp only [Lifecycle, phase] at lifecycle
    simp [Phase.left, Channel.left, lifecycle.2.1]
  | closing _ | announcing _ | draining _ _ | aborting _ _ | dead _ =>
    simp [phase, Phase.isStopping] at steady
  | executing flight => cases shift.task <;> simp [Phase.left]
  | _ => simp [Phase.left]

theorem run_left_le (kept : shift.Kept) (deserted : shift.IsDeserted)
    (moves : List (Move factory)) : (shift.run moves).left ≤ shift.left := by
  induction moves generalizing shift with
  | nil => exact Nat.le_refl _
  | cons move rest inductionHypothesis =>
    have onward := inductionHypothesis (step_kept kept move) (step_deserted kept deserted move).1
    refine Nat.le_trans onward ?_
    rcases step_wears kept deserted move with less | ⟨same, _⟩
    · exact Nat.le_of_lt less
    · exact Nat.le_of_eq same

/-- Moves among which is the one that is called for leave less to do. -/
theorem run_left_lt (kept : shift.Kept) (deserted : shift.IsDeserted) (live : ¬ shift.hasEnded)
    (moves : List (Move factory))
    (called : ∃ move ∈ moves, move.serves shift.need = true) :
    (shift.run moves).left < shift.left := by
  induction moves generalizing shift with
  | nil =>
    obtain ⟨move, member, _⟩ := called
    cases member
  | cons move rest inductionHypothesis =>
    have next := step_kept kept move
    have still := (step_deserted kept deserted move).1
    rcases step_wears kept deserted move with less | ⟨same, need, idle⟩
    · exact Nat.lt_of_le_of_lt (run_left_le next still rest) less
    · rw [← same]
      apply inductionHypothesis next still
      · rw [← left_eq_zero_iff next, same, left_eq_zero_iff kept]
        exact live
      · obtain ⟨other, member, serves⟩ := called
        rcases List.mem_cons.mp member with rfl | later
        · exact absurd (idle serves) live
        · exact ⟨other, later, need ▸ serves⟩

/-- A deserted shift comes to its end, if every kind of move occurs again and again. -/
theorem run_rounds (kept : shift.Kept) (deserted : shift.IsDeserted)
    (rounds : List (List (Move factory))) (fair : ∀ round ∈ rounds, IsFair round)
    (enough : shift.left ≤ rounds.length) : (shift.run rounds.flatten).hasEnded := by
  induction rounds generalizing shift with
  | nil => exact (left_eq_zero_iff kept).mp (Nat.le_zero.mp enough)
  | cons round rest inductionHypothesis =>
    rw [List.flatten_cons, run_append]
    have next := run_kept kept round
    have still := (run_deserted kept deserted round).1
    apply inductionHypothesis next still
    · exact fun other member => fair other (List.mem_cons_of_mem _ member)
    · by_cases ended : shift.hasEnded
      · have nothing := (left_eq_zero_iff kept).mpr ended
        have none := run_left_le kept deserted round
        omega
      · have less := run_left_lt kept deserted ended round (fair round (List.mem_cons_self ..) _)
        rw [List.length_cons] at enough
        omega

/-! ## Queueing a list of items -/

/-- An open queue with one handle that takes some more items at once. -/
structure HasRoom (shift : Shift factory) (places : Nat) : Prop where
  opened : shift.interplay.channel.closed = false
  handles : shift.interplay.channel.handles = 1
  waiters : shift.interplay.callers.waiters = []
  granted : shift.interplay.channel.granted = []
  places : shift.interplay.channel.buffer.length + places ≤ shift.interplay.channel.capacity

def submit (errand : Errand factory) : Move factory := .traffic (.call .immediate errand)

theorem submit_sends {places : Nat} (room : shift.HasRoom (places + 1)) (errand : Errand factory) :
    let call : Call (Errand factory) := ⟨shift.interplay.callers.issued, errand⟩
    shift.interplay.traffic.step (.call .immediate errand) =
      ⟨{ shift.interplay.host.queue with channel := shift.interplay.channel.push call },
        shift.interplay.callers.enter ⟨call, none⟩ (.done (.ok (Queued.id call)))⟩ := by
  intro call
  obtain ⟨opened, handles, _, granted, fits⟩ := room
  have free : shift.interplay.channel.isFull = false := by
    simp only [Channel.isFull, Channel.len, granted, List.length_nil, decide_eq_false_iff_not]
    omega
  have tried : shift.interplay.host.queue.tryEnqueue call =
      (.done (.ok (Queued.id call)),
        { shift.interplay.host.queue with channel := shift.interplay.channel.push call }) := by
    unfold Interplay.channel at opened free
    simp only [TaskQueue.tryEnqueue, Channel.trySend, opened, free, Bool.false_eq_true, if_false,
      TaskQueue.conclude]
    rfl
  have held : shift.interplay.traffic.queue.channel.handles ≠ 0 := by
    show shift.interplay.channel.handles ≠ 0
    omega
  rw [Traffic.step, if_neg held]
  show Traffic.mk (shift.interplay.host.queue.tryEnqueue call).2
    (shift.interplay.callers.enter ⟨call, none⟩ (shift.interplay.host.queue.tryEnqueue call).1) = _
  rw [tried]

theorem submit_hasRoom {places : Nat} (room : shift.HasRoom (places + 1))
    (errand : Errand factory) :
    (shift.step (submit errand)).HasRoom places ∧
      (shift.step (submit errand)).accepted = shift.accepted ++ [errand] := by
  have sent := submit_sends room errand
  have after : (shift.step (submit errand)).interplay = shift.interplay.setTraffic _ :=
    congrArg shift.interplay.setTraffic sent
  unfold accepted
  constructor
  · constructor <;> rw [after]
    · exact room.opened
    · exact room.handles
    · exact room.waiters
    · exact room.granted
    · have fits := room.places
      simp only [Interplay.setTraffic, Interplay.channel, Channel.push, List.length_append,
        List.length_singleton] at fits ⊢
      omega
  · rw [after]
    show (shift.interplay.callers.enter _ _).accepted.map Call.item = _
    rw [Callers.accepted_enter, List.map_append]
    rfl

theorem run_submits (errands : List (Errand factory)) (room : shift.HasRoom errands.length) :
    (shift.run (errands.map submit)).HasRoom 0 ∧
      (shift.run (errands.map submit)).accepted = shift.accepted ++ errands := by
  induction errands generalizing shift with
  | nil => exact ⟨room, (List.append_nil _).symm⟩
  | cons errand rest inductionHypothesis =>
    obtain ⟨next, taken⟩ := submit_hasRoom room errand
    obtain ⟨last, accepted⟩ := inductionHypothesis next
    refine ⟨last, accepted.trans ?_⟩
    rw [taken, List.append_assoc]
    rfl

theorem drop_deserts (room : shift.HasRoom 0) :
    (shift.step (.traffic .dropHandle)).IsDeserted ∧
      (shift.step (.traffic .dropHandle)).accepted = shift.accepted := by
  have nobody : ¬ (shift.interplay.traffic.queue.channel.handles = 1 ∧
      shift.interplay.traffic.callers.waiters ≠ []) := by
    rintro ⟨_, somebody⟩
    exact somebody room.waiters
  have dropped : shift.interplay.traffic.step .dropHandle =
      shift.interplay.traffic.setChannel shift.interplay.channel.dropHandle := if_neg nobody
  have after : (shift.step (.traffic .dropHandle)).interplay = shift.interplay.setTraffic _ :=
    congrArg shift.interplay.setTraffic dropped
  unfold IsDeserted accepted
  rw [after]
  refine ⟨?_, rfl⟩
  show shift.interplay.channel.handles - 1 = 0
  rw [room.handles]

/-- Any items can be queued while the queue is open and before the last handle is dropped. -/
theorem exists_deserted (errands : List (Errand factory)) (journal : Journal) :
    ∃ config moves, ((create config journal : Shift factory).run moves).IsDeserted ∧
      ((create config journal).run moves).accepted = errands := by
  let config : QueueConfig := ⟨errands.length, .wait, 0⟩
  have room : (create config journal : Shift factory).HasRoom errands.length :=
    ⟨rfl, rfl, rfl, rfl, by
      show 0 + errands.length ≤ max errands.length 1
      omega⟩
  obtain ⟨full, accepted⟩ := run_submits errands room
  obtain ⟨deserted, same⟩ := drop_deserts full
  refine ⟨config, errands.map submit ++ [.traffic .dropHandle], ?_⟩
  rw [run_append]
  exact ⟨deserted, same.trans accepted⟩

/-! ## Alone and among others -/

/-- A deserted shift comes to its end within a number of rounds that is known before. -/
theorem run_rounds_of_deserted (kept : shift.Kept) (deserted : shift.IsDeserted) :
    ∃ enough, ∀ rounds : List (List (Move factory)), (∀ round ∈ rounds, IsFair round) →
      enough ≤ rounds.length →
        (shift.run rounds.flatten).hasEnded ∧
          (shift.run rounds.flatten).accepted = shift.accepted := by
  refine ⟨shift.left, fun rounds fair enough => ?_⟩
  exact ⟨run_rounds kept deserted rounds fair enough,
    (run_deserted kept deserted rounds.flatten).2⟩

/-- A round with one move of every kind. -/
def round : List (Move factory) := [.work none, .perform true, .elapse 1]

theorem round_isFair : IsFair (round : List (Move factory)) := by
  intro need
  cases need with
  | worker => exact ⟨.work none, by simp [round], rfl⟩
  | task => exact ⟨.perform true, by simp [round], rfl⟩
  | clock => exact ⟨.elapse 1, by simp [round], rfl⟩

/-- What is told of an item by a run on a host of its own that has come to its end. -/
def Alone (errand : Errand factory) (account : List EventKind) : Prop :=
  ∃ config journal moves,
    let shift : Shift factory := (create config journal).run moves
    shift.accepted = [errand] ∧ shift.hasEnded ∧
      shift.told = [.workerStarted] ++ account ++ [.workerStopped]

/-- An item alone on a host is told of, and in one way only. -/
theorem alone_iff (errand : Errand factory) (account : List EventKind) :
    Alone errand account ↔ account = errand.account := by
  constructor
  · rintro ⟨config, journal, moves, only, ended, told⟩
    have kept := run_kept (create_kept config journal) moves
    have story := (kept.story ended).2
    rw [told, only, List.flatMap_singleton] at story
    exact List.append_cancel_left (List.append_cancel_right story)
  · rintro rfl
    obtain ⟨config, moves, deserted, only⟩ := exists_deserted [errand] default
    have kept := run_kept (create_kept config default) moves
    obtain ⟨enough, ends⟩ := run_rounds_of_deserted kept deserted
    have fair : ∀ each ∈ List.replicate enough (round : List (Move factory)), IsFair each := by
      intro each member
      rw [List.eq_of_mem_replicate member]
      exact round_isFair
    obtain ⟨ended, same⟩ := ends _ fair (Nat.le_of_eq List.length_replicate.symm)
    have alone := same.trans only
    have story := ((run_kept kept _).story ended).2
    rw [alone, List.flatMap_singleton] at story
    rw [← run_append] at alone ended story
    exact ⟨config, default, _, alone, ended, story⟩

/-- Faults stay with the item that has them. Any items that end by themselves can be queued.
Once they are and the last handle is gone, the run comes to its end, gracefully, and what
is told at the end is of each item, in the order of acceptance, what is told of it alone. -/
theorem items_are_isolated (config : QueueConfig) (journal : Journal)
    (moves : List (Move factory)) :
    let shift : Shift factory := (create config journal).run moves
    (shift.IsDeserted → ∃ enough, ∀ rounds : List (List (Move factory)),
        (∀ round ∈ rounds, IsFair round) → enough ≤ rounds.length →
          (shift.run rounds.flatten).hasEnded ∧
            (shift.run rounds.flatten).accepted = shift.accepted) ∧
      (shift.hasEnded → shift.interplay.host.worker.result? = some .graceful ∧
        shift.told =
          [.workerStarted] ++ shift.accepted.flatMap Errand.account ++ [.workerStopped]) ∧
      (∀ (errand : Errand factory) (account : List EventKind),
        Alone errand account ↔ account = errand.account) ∧
      ∀ errands : List (Errand factory), ∃ config moves,
        ((create config journal : Shift factory).run moves).IsDeserted ∧
          ((create config journal).run moves).accepted = errands := by
  intro shift
  have kept : shift.Kept := run_kept (create_kept config journal) moves
  refine ⟨run_rounds_of_deserted kept, kept.story, alone_iff, ?_⟩
  exact fun errands => exists_deserted errands journal

-- One item cancels its token and fails, the next one panics, and the last is none the worse.
example :
    let id : WorkId := ⟨List.replicate 32 0, rfl⟩
    let work (steps : List Step) : WorkItem := ⟨id, default, .mk "" none steps .silent none⟩
    let failing : Errand (.provider .barren) :=
      ⟨work [.cancelSelf, .awaitCancelled, .fail "late" []], .failed "late", rfl, rfl⟩
    let panicking : Errand (.provider .barren) :=
      ⟨work [.sleep 5, .panic (.text "lost")], .panicked "lost", rfl, rfl⟩
    let calm : Errand (.provider .barren) := ⟨work [.noteCancelled], .completed, rfl, rfl⟩
    let start : Shift (.provider .barren) := create ⟨3, .reject, 0⟩ default
    let queued := start.run ([failing, panicking, calm].map submit ++ [.traffic .dropHandle])
    (queued.run (List.replicate queued.left round).flatten).told =
      [.workerStarted, .workStarted id "unscoped" none, .workFailed id "late" 0,
        .workStarted id "unscoped" none, .workPanicked id "lost",
        .workStarted id "unscoped" none, .workCompleted id 0, .workerStopped] := by
  decide +kernel

end Shift

end WorkHost
