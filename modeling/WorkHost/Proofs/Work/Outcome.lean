import WorkHost.Host.Worker
import WorkHost.Proofs.Work.Crew
import WorkHost.Work.Action

/-!
Contract: what is reported of an item that is executed to its end.

`Item.execute` follows a task from its start to its end, whatever its action does and
whatever others do meanwhile. However the task comes to its end, what is left is destroyed
in one way: first what the action has captured, then the scope (`finish_eq_leave`). So the
report depends on what is due before anything is destroyed (`Item.due`) and on what the two
destructors panic with: one panic is reported instead of what was due, and two end the
process (`conclude_after`). Every task of a crew that ends has been executed so, or it was
aborted (`run_arises`).
-/

namespace WorkHost

/-! ## Executions -/

/-- What an action does once it is called with the resolved instance, and what others do
to the state in the meantime. -/
abbrev Action (τ : Type) : Type := Option Instance → τ → Ending × τ

/-- What is due of a task when the destruction of its state begins. -/
structure Due (σ τ : Type) where
  ending : Ending
  guard : Option (ScopeGuard σ)
  state : τ

namespace Item

variable {σ τ : Type}

/-- Calls the action, which may panic before its first step. -/
def call (item : Item) (action : Action τ) (dependency : Option Instance) (state : τ) :
    Ending × τ :=
  match item.panicEarly with
  | some text => (.panicked (.text text), state)
  | none => action dependency state

/-- What becomes of the action, given how the service that it asks for was resolved. -/
def respond (item : Item) (action : Action τ) : Resolution → τ → Ending × τ
  | .resolved held, state => item.call action (some held) state
  | .failed failure, state => (.failed failure.trace, state)
  | .panicked payload _, state => (.panicked payload, state)

variable [ServiceScope σ τ]

/-- What the item comes to before anything of its state is destroyed. -/
def due (item : Item) (create : τ → Opening σ × τ) (action : Action τ) (state : τ) : Due σ τ :=
  match item.dependency with
  | none =>
    let (ending, state) := item.call action none state
    ⟨ending, none, state⟩
  | some type =>
    match ScopeGuard.openWith create state with
    | (.refused failure, state) => ⟨.failed failure.trace, none, state⟩
    | (.panicked payload, state) => ⟨.panicked payload, none, state⟩
    | (.opened guard, state) =>
      let (resolution, guard, state) := guard.resolve type state
      let (ending, state) := item.respond action resolution state
      ⟨ending, some guard, state⟩

variable [Logbook τ]

/-- Goes on with a task that has been started, unless it has ended. -/
def conclude (item : Item) (action : Action τ) : Start σ × τ → Conclusion × τ
  | (.ended conclusion, state) => (conclusion, state)
  | (.acting guard dependency, state) =>
    let (ending, state) := action dependency state
    item.finish guard ending state

/-- A task from its start to its end, unless it is aborted. -/
def execute (item : Item) (create : τ → Opening σ × τ) (action : Action τ) (state : τ) :
    Conclusion × τ :=
  item.conclude action (item.start create state)

end Item

/-- What an ending panics with. -/
def Ending.panic? : Ending → Option Payload
  | .panicked payload => some payload
  | _ => none

/-- What is reported of an ending if nothing panics after it. -/
def Ending.result : Ending → ExecutionResult
  | .returned => .completed
  | .failed reason => .failed reason
  | .panicked payload => .panicked payload.message

/-- The result, unless there is a panic to be reported. -/
def ExecutionResult.unless (result : ExecutionResult) (panic : Option Payload) :
    ExecutionResult :=
  panic.elim result fun payload => .panicked payload.message

namespace Due

variable {σ τ : Type} [ServiceScope σ τ] [Logbook τ]

/-- The panic of the destructor of what the action has captured. -/
def spill (due : Due σ τ) (item : Item) : Option Payload := (item.drop due.state).1

/-- The panic of a hook while the scope is disposed. -/
def hookPanic (due : Due σ τ) (item : Item) : Option Payload :=
  due.guard.bind fun guard => (guard.drop (item.drop due.state).2).1

/-- Everything that panics in an item and in the destruction of its state. -/
def panics (due : Due σ τ) (item : Item) : List Payload :=
  due.ending.panic?.toList ++ (due.spill item).toList ++ (due.hookPanic item).toList

end Due

/-! ## Everything is destroyed in one way -/

theorem Unwinding.after_none (unwinding : Unwinding) : unwinding.after none = unwinding := by
  cases unwinding <;> rfl

theorem Ending.unwinding_alive (ending : Ending) : ending.unwinding.isCrashed = false := by
  cases ending <;> rfl

namespace Release

variable {σ τ : Type}

/-- A process that has ended stays so, whatever another destructor would do. -/
theorem unwinding_run (release : Release τ) (destroy : τ → Option Payload × τ) :
    (release.run destroy).unwinding = release.unwinding.after (destroy release.state).1 := by
  unfold run
  cases unwinding : release.unwinding with
  | crashed =>
    cases (destroy release.state).1 <;> simp [Unwinding.isCrashed, Unwinding.after, unwinding]
  | calm | panicking payload => rfl

theorem run_of_alive {release : Release τ} (alive : release.unwinding.isCrashed = false)
    (destroy : τ → Option Payload × τ) :
    release.run destroy =
      ⟨release.unwinding.after (destroy release.state).1, (destroy release.state).2⟩ := by
  unfold run
  rw [alive]
  rfl

/-- A destructor that does nothing changes nothing. -/
theorem run_nothing (release : Release τ) :
    (release.run fun state => (none, state)) = release := by
  unfold run
  split
  · rfl
  · simp only [Unwinding.after_none]

variable [ServiceScope σ τ]

/-- A guard that is closed has nothing left to dispose when it goes away. -/
theorem closeGuard_eq_dropGuard {release : Release τ} (guard : ScopeGuard σ)
    (alive : release.unwinding.isCrashed = false) :
    release.closeGuard guard = release.dropGuard guard := by
  unfold dropGuard
  rw [run_of_alive alive guard.drop]
  rcases guard with ⟨_ | scope⟩
  case none => exact run_nothing _
  case some => exact run_nothing _

theorem leaveGuard_eq_dropGuard (release : Release τ) (guard : ScopeGuard σ) :
    release.leaveGuard guard = release.dropGuard guard := by
  unfold leaveGuard
  cases unwinding : release.unwinding with
  | calm =>
    apply closeGuard_eq_dropGuard
    rw [unwinding]
    rfl
  | panicking payload | crashed => rfl

end Release

namespace Item

variable {σ τ : Type} [ServiceScope σ τ] [Logbook τ]

theorem finish_eq_leave (item : Item) (guard : Option (ScopeGuard σ)) (ending : Ending)
    (state : τ) : item.finish guard ending state = item.leave guard ending state := by
  unfold finish leave Release.dropAll
  cases guard with
  | none => rfl
  | some guard =>
    simp only [Option.elim_some, Release.leaveGuard_eq_dropGuard]
    rfl

theorem conclude_act (item : Item) (action : Action τ) (guard : Option (ScopeGuard σ))
    (dependency : Option Instance) (state : τ) :
    item.conclude action (item.act guard dependency state) =
      item.leave guard (item.call action dependency state).1
        (item.call action dependency state).2 := by
  unfold act call
  cases item.panicEarly with
  | some text => rfl
  | none => exact item.finish_eq_leave guard _ _

theorem conclude_enter (item : Item) (action : Action τ) (guard : ScopeGuard σ)
    (type : ServiceType) (state : τ) :
    item.conclude action (item.enter guard type state) =
      let (resolution, guard, state) := guard.resolve type state
      let (ending, state) := item.respond action resolution state
      item.leave (some guard) ending state := by
  unfold enter
  rcases guard.resolve type state with ⟨_ | _ | _, guard, state⟩
  case resolved held => exact item.conclude_act action (some guard) (some held) state
  case failed failure => rfl
  case panicked payload stack => rfl

theorem execute_of_ended (item : Item) {create : τ → Opening σ × τ} {state : τ}
    {conclusion : Conclusion} (ended : (item.start create state).1 = .ended conclusion)
    (action : Action τ) : (item.execute create action state).1 = conclusion := by
  unfold execute
  generalize item.start create state = started at ended ⊢
  obtain ⟨start, rest⟩ := started
  obtain rfl : start = .ended conclusion := ended
  rfl

theorem execute_of_acting (item : Item) {create : τ → Opening σ × τ} {state : τ}
    {guard : Option (ScopeGuard σ)} {dependency : Option Instance}
    (acting : (item.start create state).1 = .acting guard dependency) (action : Action τ) :
    item.execute create action state =
      let (ending, last) := action dependency (item.start create state).2
      item.finish guard ending last := by
  unfold execute
  generalize item.start create state = started at acting ⊢
  obtain ⟨start, rest⟩ := started
  obtain rfl : start = .acting guard dependency := acting
  rfl

/-- However a task ends, the end is one of its due. -/
theorem execute_eq_leave (item : Item) (create : τ → Opening σ × τ) (action : Action τ)
    (state : τ) :
    item.execute create action state =
      let due := item.due create action state
      item.leave due.guard due.ending due.state := by
  unfold execute start due
  cases item.dependency with
  | none => exact item.conclude_act action none none state
  | some type =>
    dsimp only
    rcases ScopeGuard.openWith create state with ⟨_ | _ | _, state⟩
    case opened guard => exact item.conclude_enter action guard type state
    case refused failure => rfl
    case panicked payload => rfl

end Item

/-! ## The report -/

namespace Due

variable {σ τ : Type} [ServiceScope σ τ] [Logbook τ]

theorem conclusion_leave (due : Due σ τ) (item : Item) :
    (item.leave due.guard due.ending due.state).1 =
      due.ending.conclude
        ((due.ending.unwinding.after (due.spill item)).after (due.hookPanic item)) := by
  have dropped : (⟨due.ending.unwinding, due.state⟩ : Release τ).dropItem item =
      ⟨due.ending.unwinding.after (due.spill item), (item.drop due.state).2⟩ :=
    Release.run_of_alive due.ending.unwinding_alive item.drop
  simp only [Item.leave, Release.dropAll, List.foldl_cons, List.foldl_nil, dropped, hookPanic]
  cases due.guard with
  | none => rw [Option.bind_none, Unwinding.after_none, Option.elim_none]
  | some guard =>
    exact congrArg due.ending.conclude (Release.unwinding_run _ guard.drop)

end Due

/-- One panic is reported, whatever was due, and two end the process. -/
theorem Ending.conclude_after (ending : Ending) (spilled hooked : Option Payload) :
    ExecutionResult.ofConclusion?
        (ending.conclude ((ending.unwinding.after spilled).after hooked)) =
      if (ending.panic?.toList ++ spilled.toList ++ hooked.toList).length ≤ 1 then
        some (ending.result.unless (spilled <|> hooked))
      else none := by
  cases ending <;> cases spilled <;> cases hooked <;> rfl

theorem Item.report_eq {σ τ : Type} [ServiceScope σ τ] [Logbook τ] (item : Item)
    (create : τ → Opening σ × τ) (action : Action τ) (state : τ) :
    ExecutionResult.ofConclusion? (item.execute create action state).1 =
      let due := item.due create action state
      if (due.panics item).length ≤ 1 then
        some (due.ending.result.unless (due.spill item <|> due.hookPanic item))
      else none := by
  rw [item.execute_eq_leave, Due.conclusion_leave]
  exact Ending.conclude_after _ _ _

/-! ## Texts of failures -/

/-- A chain is its texts, the outermost context first. -/
theorem Failure.chain_eq_intercalate (root : String) (contexts : List String) :
    chain root contexts = ": ".intercalate (contexts.reverse ++ [root]) := by
  induction contexts generalizing root with
  | nil => rfl
  | cons context contexts inductionHypothesis =>
    have ends : ": ".intercalate [context, root] = context ++ ": " ++ root := by
      rw [String.intercalate_cons_cons, String.intercalate_singleton]
    rw [chain, List.foldl_cons, ← chain, inductionHypothesis, List.reverse_cons,
      List.append_assoc, List.singleton_append, ← ends]
    cases outer : contexts.reverse with
    | nil => rfl
    | cons outermost inner =>
      rw [String.intercalate_append_of_ne_nil (by simp) (by simp),
        String.intercalate_append_of_ne_nil (by simp) (by simp), String.intercalate_singleton]

theorem Failure.trace_eq_intercalate (failure : Failure) :
    failure.trace = ": ".intercalate (failure.message :: failure.cause?.toList) := by
  unfold trace
  cases failure.cause? with
  | none => rfl
  | some cause => exact chain_eq_intercalate cause [failure.message]

/-- Only a failing step fails an action. -/
theorem ItemRun.perform_eq_failed {run : ItemRun} {now : Nat} {rest : List Step} {step : Step}
    {text : String} (fails : run.perform now rest step = .ends (.failed text)) :
    ∃ root contexts, step = .fail root contexts ∧ text = Failure.chain root contexts := by
  cases step with
  | fail root contexts =>
    cases fails
    exact ⟨root, contexts, rfl, rfl⟩
  | sleep milliseconds =>
    cases milliseconds with
    | zero =>
      rw [perform] at fails
      split at fails <;> cases fails
    | succ milliseconds => cases fails
  | awaitCancelled =>
    rw [perform] at fails
    split at fails <;> cases fails
  | _ => cases fails

/-! ## The tasks of a crew -/

namespace Crew

variable {σ τ : Type} [Logbook τ] [ServiceScope σ τ]

/-- How the phase of a task has come about in the course of moves. -/
inductive Phase.Arises (create : τ → Opening σ × τ) (moves : List (Move τ)) (index : Nat)
    (item : Item) : Phase σ → Prop where
  | fresh : Arises create moves index item .fresh
  | started (state : τ) {guard : Option (ScopeGuard σ)} {dependency : Option Instance} :
    (item.start create state).1 = .acting guard dependency →
      Arises create moves index item (.acting guard dependency)
  /-- It has ended before the first step of its action. -/
  | left (state : τ) {conclusion : Conclusion} :
    (item.start create state).1 = .ended conclusion →
      Arises create moves index item (.ended conclusion)
  | finished (state last : τ) {guard : Option (ScopeGuard σ)} {dependency : Option Instance}
    {ending : Ending} :
    (item.start create state).1 = .acting guard dependency →
      .turn index (.finish ending) ∈ moves →
        Arises create moves index item (.ended (item.finish guard ending last).1)
  | aborted (guard : Option (ScopeGuard σ)) (carried : Option Item) (last : τ)
    {offered : Option Item} :
    .turn index (.abort offered) ∈ moves →
      Arises create moves index item (.ended (item.abort guard carried last).1)

/-- The phase of every task has come about in the course of the moves. -/
def Arises (create : τ → Opening σ × τ) (moves : List (Move τ)) (crew : Crew σ τ) : Prop :=
  ∀ (index : Nat) (member : Member σ), crew.members[index]? = some member →
    member.phase.Arises create moves index member.item

variable {create : τ → Opening σ × τ} {moves : List (Move τ)} {index : Nat} {item : Item}

theorem Phase.Arises.later {phase : Phase σ} (arises : phase.Arises create moves index item)
    (more : List (Move τ)) : phase.Arises create (moves ++ more) index item := by
  cases arises with
  | fresh => exact .fresh
  | started state acting => exact .started state acting
  | left state ended => exact .left state ended
  | finished state last acting finishes =>
    exact .finished state last acting (List.mem_append_left more finishes)
  | aborted guard carried last aborts =>
    exact .aborted guard carried last (List.mem_append_left more aborts)

theorem take_arises {phase : Phase σ} (arises : phase.Arises create moves index item)
    (next : Turn τ) (state : τ) :
    (phase.take item create next state).1.Arises create (moves ++ [.turn index next]) index
      item := by
  have last : Move.turn index next ∈ moves ++ [.turn index next] :=
    List.mem_append_right moves (List.mem_singleton_self _)
  have kept := arises.later [.turn index next]
  cases phase with
  | fresh =>
    cases next with
    | start =>
      cases started : (item.start create state).1 with
      | ended conclusion =>
        have takes : (Phase.take item create .fresh .start state).1 = .ended conclusion :=
          congrArg Phase.ofStart started
        rw [takes]
        exact .left state started
      | acting guard dependency =>
        have takes : (Phase.take item create .fresh .start state).1 =
            .acting guard dependency := congrArg Phase.ofStart started
        rw [takes]
        exact .started state started
    | abort offered => exact .aborted none none state last
    | act effect | finish ending => exact kept
  | acting guard dependency =>
    cases next with
    | finish ending =>
      cases arises with
      | started first acting => exact .finished first state acting last
    | abort offered => exact .aborted guard offered state last
    | start | act effect => exact kept
  | ended conclusion => cases next <;> exact kept

theorem step_arises {crew : Crew σ τ} (arises : crew.Arises create moves) (move : Move τ) :
    (crew.step create move).Arises create (moves ++ [move]) := by
  intro other member isMember
  cases move with
  | spawn item =>
    rw [step, List.getElem?_append] at isMember
    split at isMember
    · exact (arises other member isMember).later _
    · rw [List.mem_singleton.mp (List.mem_of_getElem? isMember)]
      exact .fresh
  | other effect => exact (arises other member isMember).later _
  | turn index next =>
    cases isActor : crew.members[index]? with
    | none =>
      rw [step, isActor] at isMember
      exact (arises other member isMember).later _
    | some actor =>
      rw [step, isActor] at isMember
      by_cases same : other = index
      · subst same
        have inside : other < crew.members.length := (List.getElem?_eq_some_iff.mp isActor).1
        rw [List.getElem?_set_self inside] at isMember
        cases isMember
        exact take_arises (arises other actor isActor) next crew.state
      · rw [List.getElem?_set_ne (Ne.symm same)] at isMember
        exact (arises other member isMember).later _

theorem idle_arises (create : τ → Opening σ × τ) (state : τ) :
    (idle state : Crew σ τ).Arises create [] := by
  intro index member isMember
  simp [idle] at isMember

theorem run_arises {crew : Crew σ τ} (arises : crew.Arises create moves)
    (more : List (Move τ)) : (crew.run create more).Arises create (moves ++ more) := by
  induction more generalizing crew moves with
  | nil => simpa [run] using arises
  | cons move more inductionHypothesis =>
    have later := inductionHypothesis (step_arises arises move)
    rwa [List.append_assoc] at later

/-- A task that has ended was executed, or it was aborted; nothing else ends it. -/
theorem Phase.Arises.of_ended {conclusion : Conclusion}
    (arises : (ended conclusion : Phase σ).Arises create moves index item) :
    (∃ state, ∀ action, conclusion = (item.execute create action state).1) ∨
      (∃ state ending last, .turn index (.finish ending) ∈ moves ∧
        conclusion = (item.execute create (fun _ _ => (ending, last)) state).1) ∨
      ∃ offered, .turn index (.abort offered) ∈ moves ∧
        ∃ (guard : Option (ScopeGuard σ)) (carried : Option Item) (last : τ),
          conclusion = (item.abort guard carried last).1 := by
  cases arises with
  | left state ended =>
    exact .inl ⟨state, fun action => (item.execute_of_ended ended action).symm⟩
  | @finished state last guard dependency ending acting finishes =>
    have executed := item.execute_of_acting acting fun _ _ => (ending, last)
    exact .inr (.inl ⟨state, ending, last, finishes, congrArg Prod.fst executed.symm⟩)
  | aborted guard carried last aborts => exact .inr (.inr ⟨_, aborts, guard, carried, last, rfl⟩)

end Crew

/-! ## Every way to the end -/

namespace Item

variable {σ τ : Type} [ServiceScope σ τ]

theorem due_of_unscoped {item : Item} (unscoped : item.dependency = none)
    (create : τ → Opening σ × τ) (action : Action τ) (state : τ) :
    item.due create action state =
      ⟨(item.call action none state).1, none, (item.call action none state).2⟩ := by
  rw [due, unscoped]

theorem due_of_refused {item : Item} {type : ServiceType} (asks : item.dependency = some type)
    {create : τ → Opening σ × τ} {state opened : τ} {failure : Failure}
    (refused : create state = (.refused failure, opened)) (action : Action τ) :
    item.due create action state = ⟨.failed failure.trace, none, opened⟩ := by
  simp only [due, asks, ScopeGuard.openWith, refused]

theorem due_of_panicked {item : Item} {type : ServiceType} (asks : item.dependency = some type)
    {create : τ → Opening σ × τ} {state opened : τ} {payload : Payload}
    (panicked : create state = (.panicked payload, opened)) (action : Action τ) :
    item.due create action state = ⟨.panicked payload, none, opened⟩ := by
  simp only [due, asks, ScopeGuard.openWith, panicked]

theorem due_of_opened {item : Item} {type : ServiceType} (asks : item.dependency = some type)
    {create : τ → Opening σ × τ} {state opened : τ} {scope : σ}
    (opens : create state = (.opened scope, opened)) (action : Action τ) :
    item.due create action state =
      let (answer, scope, resolved) := ServiceScope.resolveAny scope type opened
      let (ending, acted) := item.respond action (answer.ofType type) resolved
      ⟨ending, some (.ofScope scope), acted⟩ := by
  simp only [due, asks, ScopeGuard.openWith, opens, ScopeGuard.resolve, ScopeGuard.ofScope]

/-- An action that is not called makes no difference. -/
theorem respond_congr (item : Item) {resolution : Resolution}
    (unresolved : ∀ held, resolution ≠ .resolved held) (action other : Action τ) (state : τ) :
    item.respond action resolution state = item.respond other resolution state := by
  cases resolution with
  | resolved held => exact absurd rfl (unresolved held)
  | failed failure | panicked payload stack => rfl

variable [Logbook τ]

/-- The report on an item that is executed and in which at most one thing panics. An
unscoped item comes to what its action comes to. A scoped one fails if its scope cannot be
opened or its service cannot be resolved, with the whole chain of texts; its action runs
only with an instance of the right type. Whatever it comes to, a panic of a hook or of the
destructor of what was captured is reported instead. Every task of a crew that has ended
without an abort was executed so. -/
theorem execution_reports (item : Item) (create : τ → Opening σ × τ) (action : Action τ)
    (state : τ) (once : ((item.due create action state).panics item).length ≤ 1) :
    let report := ExecutionResult.ofConclusion? (item.execute create action state).1
    (item.dependency = none →
      let acted := item.call action none state
      report = some (acted.1.result.unless (item.drop acted.2).1)) ∧
    (∀ type, item.dependency = some type →
      (∀ failure opened, create state = (.refused failure, opened) →
        report = some ((ExecutionResult.failed failure.trace).unless (item.drop opened).1)) ∧
      (∀ payload opened, create state = (.panicked payload, opened) →
        report = some (.panicked payload.message)) ∧
      ∀ scope opened, create state = (.opened scope, opened) →
        ∀ answer left resolved,
          ServiceScope.resolveAny scope type opened = (answer, left, resolved) →
            let acted := item.respond action (answer.ofType type) resolved
            let dropped := item.drop acted.2
            let disposed := ServiceScope.dispose left dropped.2
            report = some (acted.1.result.unless (dropped.1 <|> disposed.1)) ∧
            (∀ held, answer = .resolved held → held.type = type →
              acted = item.call action (some held) resolved) ∧
            (∀ held, answer = .resolved held → held.type ≠ type →
              acted = (.failed (Resolution.wrongType type).trace, resolved)) ∧
            (∀ failure, answer = .failed failure → acted = (.failed failure.trace, resolved)) ∧
            (∀ payload stack, answer = .panicked payload stack →
              acted = (.panicked payload, resolved)) ∧
            ((∀ held, answer.ofType type ≠ .resolved held) → ∀ other,
              item.execute create other state = item.execute create action state)) ∧
    (∀ failure : Failure,
      failure.trace = ": ".intercalate (failure.message :: failure.cause?.toList)) ∧
    (∀ (run : ItemRun) now rest step text,
      run.perform now rest step = .ends (.failed text) → ∃ root contexts,
        step = .fail root contexts ∧ text = ": ".intercalate (contexts.reverse ++ [root])) ∧
    ∀ first moves index conclusion,
      ((Crew.idle first).run create moves).members[index]? = some ⟨item, .ended conclusion⟩ →
        (∃ state, ∀ action, conclusion = (item.execute create action state).1) ∨
        (∃ state ending last, .turn index (.finish ending) ∈ moves ∧
          conclusion = (item.execute create (fun _ _ => (ending, last)) state).1) ∨
        ∃ offered, .turn index (.abort offered) ∈ moves ∧
          ∃ (guard : Option (ScopeGuard σ)) (carried : Option Item) (last : τ),
            conclusion = (item.abort guard carried last).1 := by
  intro report
  have reported : report = some ((item.due create action state).ending.result.unless
      ((item.due create action state).spill item <|>
        (item.due create action state).hookPanic item)) :=
    (item.report_eq create action state).trans (if_pos once)
  refine ⟨?_, ?_, Failure.trace_eq_intercalate, ?_, ?_⟩
  · intro unscoped acted
    rw [due_of_unscoped unscoped] at reported
    simpa [Due.spill, Due.hookPanic] using reported
  · intro type asks
    refine ⟨?_, ?_, ?_⟩
    · intro failure opened refused
      rw [due_of_refused asks refused] at reported
      simpa [Due.spill, Due.hookPanic, Ending.result] using reported
    · intro payload opened panicked
      rw [due_of_panicked asks panicked] at once reported
      have spilled : (item.drop opened).1 = none := by
        simpa [Due.panics, Ending.panic?, Due.spill, Due.hookPanic] using once
      simpa [Due.spill, Due.hookPanic, spilled, Ending.result, ExecutionResult.unless]
        using reported
    · intro scope opened opens answer left resolved resolves acted dropped disposed
      refine ⟨?_, ?_, ?_, ?_, ?_, ?_⟩
      · rw [due_of_opened asks opens, resolves] at reported
        exact reported
      · intro held isHeld typed
        simp only [acted, isHeld, Resolution.ofType, if_pos typed, respond]
      · intro held isHeld strange
        simp only [acted, isHeld, Resolution.ofType, if_neg strange, respond]
      · intro failure fails
        simp only [acted, fails, Resolution.ofType, respond]
      · intro payload stack panics
        simp only [acted, panics, Resolution.ofType, respond]
      · intro unresolved other
        rw [execute_eq_leave, execute_eq_leave, due_of_opened asks opens,
          due_of_opened asks opens, resolves]
        dsimp only
        rw [item.respond_congr unresolved other action resolved]
  · intro run now rest step text fails
    obtain ⟨root, contexts, isFail, rfl⟩ := ItemRun.perform_eq_failed fails
    exact ⟨root, contexts, isFail, Failure.chain_eq_intercalate root contexts⟩
  · intro first moves index conclusion isMember
    exact (Crew.run_arises (Crew.idle_arises create first) moves index _ isMember).of_ended

/-- A hook that panics after the service could not be resolved. -/
theorem execution_reports_of_hook :
    let part : Service := ⟨⟨"Part", "P"⟩, [], .panicking⟩
    let whole : Service := ⟨⟨"Whole", "W"⟩, [.get part.type, .get ⟨"Lost", "L"⟩], .silent⟩
    let item : Item := .mk "job" (some whole.type) [] .logged none
    let create := ScopeFactory.create (.container ⟨[part, whole]⟩)
    let action : Action Journal := fun _ journal => (.returned, journal)
    ((item.due create action (.ofSerial 0)).panics item).length ≤ 1 ∧
      ExecutionResult.ofConclusion? (item.execute create action (.ofSerial 0)).1 =
        some (.panicked "dispose P#0 panicked") := by
  intro part whole item create action
  have once : ((item.due create action (.ofSerial 0)).panics item).length ≤ 1 := by decide
  have reports := (execution_reports item create action (.ofSerial 0) once).2.1 whole.type rfl
  have opened := reports.2.2 _ _ rfl _ _ _ rfl
  exact ⟨once, opened.1.trans (by decide)⟩

end Item

end WorkHost
