import WorkHost.Proofs.Host.Grace
import WorkHost.Proofs.Work.Errand

/-!
Contract: a host together with the tasks of its items, as long as nobody asks it to stop.

A shift is an interplay in which the end of an item is not a move of its own: it is what
the item's task comes to, step by step, while callers, the worker and the clock go on.
All items share one journal. What is told of the items that were started
(`Interplay.Told`) is for each of them what its errand alone accounts for, in every
state that a shift reaches (`Shift.run_kept`).
-/

namespace WorkHost

/-- The event without what the clock has to do with it. -/
def EventKind.timeless : EventKind → EventKind
  | .workCompleted id _ => .workCompleted id 0
  | .workFailed id error _ => .workFailed id error 0
  | other => other

namespace Errand

variable {factory : ScopeFactory}

def started (errand : Errand factory) : EventKind :=
  .workStarted (Queued.id errand) (Queued.kind errand).text (Queued.dependency errand)

def ended (errand : Errand factory) : EventKind :=
  (Flight.ofItem errand 0).endEvent 0 errand.result

/-- The events about an errand that was started and has ended. -/
def account (errand : Errand factory) : List EventKind := [errand.started, errand.ended]

theorem timeless_endEvent (errand : Errand factory) {flight : Flight}
    (same : flight.id = Queued.id errand) (durationMs : Nat) :
    (flight.endEvent durationMs errand.result).timeless = errand.ended := by
  unfold ended
  cases errand.result <;>
    simp only [Flight.endEvent, Flight.ofItem, EventKind.timeless, same]

/-- The task of an errand runs, or it has ended with the result that is due. -/
inductive Employs (errand : Errand factory) : Option ExecutionResult → Option ItemRun → Prop where
  | serving {run : ItemRun} (serves : run.Serves errand) : Employs errand none (some run)
  | served : Employs errand (some errand.result) none

end Errand

/-- What was told of an item that was started. -/
def Life.account {factory : ScopeFactory} (life : Life (Errand factory)) : List EventKind :=
  if life.verdict.isSome then life.call.item.account else [life.call.item.started]

namespace Lives

variable {factory : ScopeFactory}

def account (lives : Lives (Errand factory)) : List EventKind := lives.toList.flatMap Life.account

theorem account_begin (lives : Lives (Errand factory)) (call : Call (Errand factory)) :
    account ⟨lives.toList, some (.begin call)⟩ = lives.account ++ [call.item.started] := by
  simp [account, toList, Life.begin, Life.account]

theorem account_update (lives : Lives (Errand factory))
    {change : Life (Errand factory) → Life (Errand factory)}
    (keeps : ∀ life, (change life).account = life.account) :
    (lives.update change).account = lives.account := by
  unfold account update toList
  cases lives.current <;> simp [keeps]

theorem account_judge {lives : Lives (Errand factory)} {life : Life (Errand factory)}
    (current : lives.current = some life) (unjudged : life.verdict = none)
    (result : ExecutionResult) :
    (lives.update fun life => { life with verdict := some result }).account =
      lives.account ++ [life.call.item.ended] := by
  simp [account, update, toList, current, Life.account, unjudged, Errand.account]

end Lives

namespace Phase

/-- Whether the worker acts upon a request to stop, or has died. -/
def isStopping {β : Type} : Phase β → Bool
  | .closing _ | .announcing _ | .draining .. | .aborting .. | .dead _ => true
  | _ => false

/-- Whether the worker has begun and not yet ended. -/
def isOpen {β : Type} : Phase β → Bool
  | .starting | .ended => false
  | _ => true

/-- What is told of a run, given what is told of the items. -/
def story {β : Type} (account : List EventKind) : Phase β → List EventKind
  | .starting => []
  | .ended => .workerStarted :: account ++ [.workerStopped]
  | _ => .workerStarted :: account

theorem story_of_isOpen {β : Type} {phase : Phase β} (opened : phase.isOpen = true)
    (account : List EventKind) : phase.story account = .workerStarted :: account := by
  cases phase with
  | starting | ended => cases opened
  | _ => rfl

/-- What goes with each phase of the worker for the task of the item started last. -/
def Employs {factory : ScopeFactory} {β : Type} (phase : Phase β)
    (current : Option (Life (Errand factory))) (ended : Option ExecutionResult)
    (task : Option ItemRun) : Prop :=
  match phase with
  | .executing flight =>
    ∃ life, current = some life ∧ flight.id = Queued.id life.call.item ∧
      life.call.item.Employs ended task
  | .reporting flight result =>
    task = none ∧ ∃ life, current = some life ∧ flight.id = Queued.id life.call.item ∧
      result = life.call.item.result
  | _ => task = none

end Phase

/-- The task of the item in flight after a command of the worker. -/
def Command.hire {factory : ScopeFactory} (task : Option ItemRun) :
    Option (Command (Call (Errand factory))) → Option ItemRun
  | some (.execute call) => some (.ofWork call.item.work)
  | _ => task

theorem Lifecycle.isStopping_of_calm {β : Type} {worker : Worker β} {channel : Channel β}
    (lifecycle : Lifecycle worker channel false) : worker.phase.isStopping = false := by
  cases phase : worker.phase with
  | closing flight | announcing flight =>
    cases flight <;> simp [Lifecycle, phase] at lifecycle
  | draining _ _ | aborting _ _ | dead _ =>
    simp [Lifecycle, phase, WorkerState.Drained] at lifecycle
  | _ => rfl

/-- Without a request to stop nothing is discarded. -/
theorem Advance.dropped_of_calm {β : Type} [Queued β] {view : Surroundings} {worker : Worker β}
    {channel : Channel β} {stride : Stride β} (calm : view.stopping = false)
    (lifecycle : Lifecycle worker channel view.stopping)
    (advance : Advance view worker channel stride) : Command.dropped stride.command = [] := by
  cases advance with
  | discard phase received =>
    obtain ⟨buffer, _⟩ := Channel.receive_item received
    simp [Lifecycle, phase, calm, WorkerState.Drained, Channel.Deserted, buffer] at lifecycle
  | _ => rfl

/-! ## What is told -/

namespace Interplay

variable {factory : ScopeFactory}

/-- What was told so far: all about the items that have their result, and of the others
that they were started. -/
structure Told (state : Interplay (Errand factory)) : Prop where
  events : state.record.events.map EventKind.timeless =
    state.host.worker.phase.story state.record.lives.account
  idle : state.host.worker.phase = .starting → state.record.lives.account = []

theorem create_told (config : QueueConfig) :
    (create config : Interplay (Errand factory)).Told :=
  ⟨rfl, fun _ => rfl⟩

variable {state : Interplay (Errand factory)} {stride : Stride (Call (Errand factory))}

/-- A step that starts no item and reports on none. -/
theorem advance_lives_of_quiet
    (elsewhere : ∀ flight result, state.host.worker.phase ≠ .reporting flight result)
    (silent : stride.command = none) :
    (state.advance stride).record.lives = state.record.lives := by
  show (state.record.lives.judge _).obey _ stride.command = _
  rw [silent]
  unfold Lives.judge
  split
  · rename_i flight result phase
    exact absurd phase (elsewhere flight result)
  · rfl

/-- A step in the course of a run, with what it adds to the account. -/
theorem Told.extend (added : List EventKind) (told : state.Told)
    (before : state.host.worker.phase.isOpen = true) (after : stride.worker.phase.isOpen = true)
    (lives : (state.advance stride).record.lives.account = state.record.lives.account ++ added)
    (events : (Report.events stride.reports).map EventKind.timeless = added) :
    (state.advance stride).Told where
  events := by
    rw [advance_events, List.map_append, told.events, advance_worker, events, lives,
      Phase.story_of_isOpen before, Phase.story_of_isOpen after, List.cons_append]
  idle starting := by
    rw [advance_worker] at starting
    simp [starting, Phase.isOpen] at after

theorem Told.quiet (told : state.Told) (before : state.host.worker.phase.isOpen = true)
    (after : stride.worker.phase.isOpen = true)
    (elsewhere : ∀ flight result, state.host.worker.phase ≠ .reporting flight result)
    (silent : stride.command = none) (events : Report.events stride.reports = []) :
    (state.advance stride).Told := by
  refine told.extend [] before after ?_ (by rw [events, List.map_nil])
  rw [advance_lives_of_quiet elsewhere silent, List.append_nil]

theorem advance_told (reached : state.Reached) (calm : state.host.stopping = false)
    {task : Option ItemRun}
    (employs : state.host.worker.phase.Employs state.record.lives.current state.host.ended task)
    (advance : Advance state.view state.host.worker state.channel stride) (told : state.Told) :
    (state.advance stride).Told := by
  have lifecycle := reached.sound.lifecycle
  have dropped := advance.dropped_of_calm calm lifecycle
  rw [calm] at lifecycle
  have steady := lifecycle.isStopping_of_calm
  cases advance with
  | begin phase =>
    have events := told.events
    rw [phase] at events
    refine ⟨?_, nofun⟩
    rw [advance_events, List.map_append, events, advance_lives_of_quiet (by simp [phase]) rfl,
      told.idle phase]
    rfl
  | launch phase =>
    rename_i call
    refine told.extend [call.item.started] (by rw [phase]; rfl) rfl ?_ rfl
    rw [← state.record.lives.account_begin call]
    show ((state.record.lives.judge state.host.worker.phase).obey _ _).account = _
    rw [phase]
    rfl
  | report phase =>
    rename_i flight result
    have custody := reached.tended.custody
    rw [phase] at employs custody
    obtain ⟨-, life, current, same, due⟩ := employs
    obtain ⟨known, found, _, unjudged⟩ := custody
    rw [current, Option.some.injEq] at found
    subst found
    refine told.extend [life.call.item.ended] (by rw [phase]; rfl) rfl ?_ ?_
    · rw [← Lives.account_judge current unjudged result]
      show ((state.record.lives.judge state.host.worker.phase).obey _ _).account = _
      rw [phase]
      rfl
    · rw [Flight.events_reports, due, List.map_singleton, life.call.item.timeless_endEvent same]
  | stop phase =>
    have events := told.events
    rw [phase] at events
    refine ⟨?_, nofun⟩
    rw [advance_events, List.map_append, events, advance_lives_of_quiet (by simp [phase]) rfl]
    rfl
  | sum phase =>
    rename_i count
    simp only [Lifecycle, phase] at lifecycle
    have nothing : count = 0 := by
      rcases lifecycle.2.2 with idle | drained
      · exact idle.2
      · cases drained.2.2
    refine told.quiet (by rw [phase]; rfl) rfl (by simp [phase]) rfl ?_
    rw [nothing]
    rfl
  | take phase _ _ | desert phase _ _ | land phase _ | again phase _ | leave phase _ | shut phase
  | exhaust phase _ =>
    exact told.quiet (by rw [phase]; rfl) rfl (by simp [phase]) rfl rfl
  | heed phase stopping | interrupt phase _ stopping | quit phase stopping
  | obey phase stopping => simp [calm] at stopping
  | close phase | announce phase _ | resume phase _ | settle phase _ | cut phase _ _
  | yield phase _ | detach phase _ _ =>
    simp [phase, Phase.isStopping] at steady
  | discard phase received => cases dropped

/-- An item that the worker executes gets a task; the task before it has ended. -/
theorem advance_employs (calm : state.host.stopping = false)
    (lifecycle : Lifecycle state.host.worker state.channel state.host.stopping)
    {task : Option ItemRun}
    (employs : state.host.worker.phase.Employs state.record.lives.current state.host.ended task)
    (advance : Advance state.view state.host.worker state.channel stride) :
    stride.worker.phase.Employs (state.advance stride).record.lives.current
      (state.advance stride).host.ended (Command.hire task stride.command) := by
  have dropped := advance.dropped_of_calm calm lifecycle
  rw [calm] at lifecycle
  have steady := lifecycle.isStopping_of_calm
  cases advance with
  | launch phase =>
    rename_i call
    exact ⟨.begin call, rfl, rfl, .serving (ItemRun.ofWork_serves call.item)⟩
  | land phase ended =>
    rw [phase] at employs
    obtain ⟨life, current, same, employed⟩ := employs
    replace ended : state.host.ended = some _ := ended
    rw [ended] at employed
    cases employed with
    | served =>
      refine ⟨rfl, life, ?_, same, rfl⟩
      rw [advance_lives_of_quiet (by simp [phase]) rfl]
      exact current
  | report phase =>
    rw [phase] at employs
    exact employs.1
  | begin phase | stop phase | sum phase | take phase _ _ | desert phase _ _ | again phase _
  | leave phase _ | shut phase | exhaust phase _ =>
    rw [phase] at employs
    exact employs
  | heed phase stopping | interrupt phase _ stopping | quit phase stopping
  | obey phase stopping => simp [calm] at stopping
  | close phase | announce phase _ | resume phase _ | settle phase _ | cut phase _ _
  | yield phase _ | detach phase _ _ =>
    simp [phase, Phase.isStopping] at steady
  | discard phase received => cases dropped

end Interplay

/-! ## Shifts -/

structure Shift (factory : ScopeFactory) where
  interplay : Interplay (Errand factory)
  /-- The task of the item in flight. -/
  task : Option ItemRun
  /-- What all items write to. -/
  journal : Journal

inductive Shift.Move (factory : ScopeFactory) where
  | traffic (move : Traffic.Move (Errand factory))
  | elapse (milliseconds : Nat)
  | work (mishap : Option String)
  /-- The task of the item in flight goes on, in a new turn or in the same one. -/
  | perform (anew : Bool)

namespace Shift

variable {factory : ScopeFactory}

def create (config : QueueConfig) (journal : Journal) : Shift factory :=
  ⟨.create config, none, journal⟩

/-- The worker makes a step; an item that it executes gets a task. -/
def work (shift : Shift factory) (mishap : Option String) : Shift factory :=
  let command := (shift.interplay.host.step shift.interplay.now).bind HostStride.command
  { shift with
    interplay := shift.interplay.step (.work mishap)
    task := Command.hire shift.task command }

/-- The task of the item in flight has ended. A crash takes everything down, so that
nothing more is heard of the item. -/
def conclude (shift : Shift factory) (conclusion : Conclusion) : Shift factory :=
  let interplay :=
    match ExecutionResult.ofConclusion? conclusion with
    | some result => shift.interplay.step (.conclude result)
    | none => shift.interplay
  { shift with interplay, task := none }

def perform (shift : Shift factory) (anew : Bool) : Shift factory :=
  match shift.task with
  | none => shift
  | some run =>
    match (run.refresh anew).proceed factory shift.interplay.now shift.journal with
    | (.goes run, journal) => { shift with task := some run, journal }
    | (.ends conclusion, journal) => { shift with journal }.conclude conclusion

def step (shift : Shift factory) : Move factory → Shift factory
  | .traffic move => { shift with interplay := shift.interplay.step (.traffic move) }
  | .elapse milliseconds => { shift with interplay := shift.interplay.step (.elapse milliseconds) }
  | .work mishap => shift.work mishap
  | .perform anew => shift.perform anew

def run (shift : Shift factory) (moves : List (Move factory)) : Shift factory :=
  moves.foldl step shift

theorem run_append (shift : Shift factory) (before after : List (Move factory)) :
    shift.run (before ++ after) = (shift.run before).run after := List.foldl_append

/-- What is true of every state that a shift reaches. -/
structure Kept (shift : Shift factory) : Prop where
  reached : shift.interplay.Reached
  calm : shift.interplay.host.stopping = false
  employs : shift.interplay.host.worker.phase.Employs shift.interplay.record.lives.current
    shift.interplay.host.ended shift.task
  told : shift.interplay.Told
  whole : shift.interplay.record.discarded = []

theorem create_kept (config : QueueConfig) (journal : Journal) :
    (create config journal : Shift factory).Kept :=
  ⟨Interplay.reached_create config, rfl, rfl, Interplay.create_told config, rfl⟩

variable {shift : Shift factory}

/-- What a step of the worker comes to; nothing is discarded, so no destructor matters. -/
theorem work_cases (kept : shift.Kept) (mishap : Option String) :
    (shift.interplay.host.worker.step shift.interplay.view shift.interplay.channel = none ∧
        shift.work mishap = shift) ∨
      ∃ stride, Advance shift.interplay.view shift.interplay.host.worker shift.interplay.channel
          stride ∧
        Command.dropped stride.command = [] ∧
        shift.work mishap = { shift with
          interplay := shift.interplay.advance stride
          task := Command.hire shift.task stride.command } := by
  unfold work Interplay.step Interplay.work
  rw [Interplay.host_step]
  cases stepped : shift.interplay.host.worker.step shift.interplay.view
    shift.interplay.channel with
  | none => exact Or.inl ⟨rfl, rfl⟩
  | some stride =>
    have advance := Worker.step_advance stepped
    have dropped := advance.dropped_of_calm kept.calm kept.reached.sound.lifecycle
    refine Or.inr ⟨stride, advance, dropped, ?_⟩
    simp only [Option.map_some, Option.bind_some]
    split
    · rename_i call message discards
      have discarded : stride.command = some (.discard call) := discards
      rw [discarded] at dropped
      cases dropped
    · rfl

/-- The task of the item in flight, with the life that it belongs to. -/
theorem Kept.employed (kept : shift.Kept) {run : ItemRun} (task : shift.task = some run) :
    ∃ flight life, shift.interplay.host.worker.phase = .executing flight ∧
      shift.interplay.record.lives.current = some life ∧ shift.interplay.host.ended = none ∧
      run.Serves life.call.item := by
  have employs := kept.employs
  cases phase : shift.interplay.host.worker.phase with
  | executing flight =>
    rw [phase, task] at employs
    obtain ⟨life, current, same, employed⟩ := employs
    generalize shift.interplay.host.ended = ended at employed ⊢
    cases employed with
    | serving serves => exact ⟨flight, life, rfl, current, rfl, serves⟩
  | reporting flight result =>
    rw [phase] at employs
    simp [employs.1] at task
  | _ =>
    rw [phase] at employs
    replace employs : shift.task = none := employs
    simp [employs] at task

/-- The task of an item that runs ends. -/
theorem interplay_conclude (kept : shift.Kept) {flight : Flight} {life : Life (Errand factory)}
    (phase : shift.interplay.host.worker.phase = .executing flight)
    (current : shift.interplay.record.lives.current = some life)
    (flying : shift.interplay.host.ended = none) {result : ExecutionResult}
    (own : result ≠ .aborted) :
    shift.interplay.conclude result =
      { shift.interplay with
        host := shift.interplay.host.concludeFlight result
        record := { shift.interplay.record with
          lives := shift.interplay.record.lives.update fun life =>
            { life with ending := some (shift.interplay.now, result) } } } := by
  have custody := kept.reached.tended.custody
  rw [phase] at custody
  obtain ⟨known, found, inHand⟩ := custody
  rw [current, Option.some.injEq] at found
  subst found
  have may : (shift.interplay.record.lives.current.any fun life => life.mayEnd result) = true := by
    simp [current, Life.mayEnd, inHand.flying flying, own]
  rw [Interplay.conclude, if_pos may]

/-- The item in flight ends with the result that is due. -/
theorem conclude_kept (kept : shift.Kept) {flight : Flight} {life : Life (Errand factory)}
    (phase : shift.interplay.host.worker.phase = .executing flight)
    (current : shift.interplay.record.lives.current = some life)
    (flying : shift.interplay.host.ended = none) {conclusion : Conclusion}
    (due : ExecutionResult.ofConclusion? conclusion = some life.call.item.result)
    (journal : Journal) : ({ shift with journal }.conclude conclusion).Kept := by
  have concluded := interplay_conclude kept phase current flying life.call.item.result_ne_aborted
  have employs := kept.employs
  rw [phase] at employs
  obtain ⟨known, found, same, _⟩ := employs
  rw [current, Option.some.injEq] at found
  subst found
  unfold conclude
  rw [due]
  refine ⟨kept.reached.step (.conclude _), ?_, ?_, ?_, ?_⟩
  · show (shift.interplay.conclude _).host.stopping = false
    rw [concluded]
    exact kept.calm
  · show (shift.interplay.conclude _).host.worker.phase.Employs
      (shift.interplay.conclude _).record.lives.current (shift.interplay.conclude _).host.ended none
    rw [concluded]
    dsimp only [Host.concludeFlight]
    rw [phase]
    exact ⟨{ life with ending := some (shift.interplay.now, life.call.item.result) },
      congrArg (Option.map _) current, same, .served⟩
  · show (shift.interplay.conclude _).Told
    have account := shift.interplay.record.lives.account_update
      (show ∀ other : Life (Errand factory), Life.account
        { other with ending := some (shift.interplay.now, life.call.item.result) } =
          other.account from fun _ => rfl)
    rw [concluded]
    refine ⟨kept.told.events.trans ?_, fun starting => account.trans (kept.told.idle starting)⟩
    exact congrArg (shift.interplay.host.worker.phase.story ·) account.symm
  · show (shift.interplay.conclude _).record.discarded = []
    rw [concluded]
    exact kept.whole

theorem perform_kept (kept : shift.Kept) (anew : Bool) : (shift.perform anew).Kept := by
  unfold perform
  cases task : shift.task with
  | none => exact kept
  | some run =>
    obtain ⟨flight, life, phase, current, flying, serves⟩ := kept.employed task
    have onward :=
      ItemRun.proceed_serves (serves.refresh anew) shift.interplay.now shift.journal
    dsimp only
    generalize (run.refresh anew).proceed factory shift.interplay.now shift.journal = progress
      at onward ⊢
    obtain ⟨next | conclusion, journal⟩ := progress
    case goes =>
      refine ⟨kept.reached, kept.calm, ?_, kept.told, kept.whole⟩
      have employs := kept.employs
      rw [phase] at employs ⊢
      obtain ⟨known, found, same, _⟩ := employs
      rw [current, Option.some.injEq] at found
      subst found
      exact ⟨life, current, same, flying ▸ .serving onward⟩
    case ends => exact conclude_kept kept phase current flying onward journal

theorem step_kept (kept : shift.Kept) (move : Move factory) : (shift.step move).Kept := by
  cases move with
  | traffic move =>
    exact ⟨kept.reached.step (.traffic move), kept.calm, kept.employs, ⟨kept.told.events,
      kept.told.idle⟩, kept.whole⟩
  | elapse milliseconds =>
    exact ⟨kept.reached.step (.elapse milliseconds), kept.calm, kept.employs, ⟨kept.told.events,
      kept.told.idle⟩, kept.whole⟩
  | perform anew => exact perform_kept kept anew
  | work mishap =>
    rcases work_cases kept mishap with ⟨_, same⟩ | ⟨stride, advance, dropped, same⟩
    · rw [step, same]
      exact kept
    · have onward : (shift.work mishap).interplay = shift.interplay.advance stride := by rw [same]
      have reached : (shift.work mishap).interplay.Reached := kept.reached.step (.work mishap)
      rw [step, same]
      refine ⟨onward ▸ reached, kept.calm,
        Interplay.advance_employs kept.calm kept.reached.sound.lifecycle kept.employs advance,
        Interplay.advance_told kept.reached kept.calm kept.employs advance kept.told, ?_⟩
      rw [Interplay.advance_discarded, kept.whole, dropped]
      rfl

theorem run_kept (kept : shift.Kept) (moves : List (Move factory)) : (shift.run moves).Kept := by
  induction moves generalizing shift with
  | nil => exact kept
  | cons move rest inductionHypothesis => exact inductionHypothesis (step_kept kept move)

end Shift

end WorkHost
