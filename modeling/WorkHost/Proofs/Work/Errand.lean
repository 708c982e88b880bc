import Mathlib.Algebra.GroupWithZero.Nat
import WorkHost.Host.Worker
import WorkHost.Proofs.Scope.Twins
import WorkHost.Work.Action

/-!
Contract: items that end by themselves.

An errand is an item whose result depends on nothing but the item and the factory of
its scopes (`Item.verdict?`). Its task is carried out in small steps between which
anything may happen to the journal and the clock. Every step keeps the result that is
due (`ItemRun.proceed_serves`) and brings its end nearer (`ItemRun.proceed_nears`).
-/

namespace WorkHost

/-- How an action ends if it does so by itself and uses nothing that others use;
`cancelled` says whether its token is cancelled. -/
def endingOf? (cancelled : Bool) : List Step → Option Ending
  | [] => some .returned
  | .fail root contexts :: _ => some (.failed (Failure.chain root contexts))
  | .panic payload :: _ => some (.panicked payload)
  | .cancelSelf :: rest => endingOf? true rest
  | .awaitCancelled :: rest => if cancelled then endingOf? cancelled rest else none
  | .log _ :: rest | .sleep _ :: rest | .yield :: rest | .noteDependency :: rest
  | .noteCancelled :: rest => endingOf? cancelled rest
  | .hang :: _ | .block :: _ | .enqueue _ :: _ | .tryEnqueue _ :: _ | .noteLength :: _
  | .stopHost :: _ | .noteState :: _ | .stopScheduler :: _ | .noteRun :: _ => none

/-- The result of an item that ends by itself, as it comes out with an empty journal. -/
def Item.verdict? (item : Item) (factory : ScopeFactory) : Option ExecutionResult :=
  match item.start factory.create (.ofSerial 0) with
  | (.ended conclusion, _) => ExecutionResult.ofConclusion? conclusion
  | (.acting guard _, journal) =>
    (endingOf? false item.steps).bind fun ending =>
      ExecutionResult.ofConclusion? (item.finish guard ending journal).1

/-- An item that ends by itself, with the result that it has alone. -/
structure Errand (factory : ScopeFactory) where
  work : WorkItem
  result : ExecutionResult
  ends : work.item.verdict? factory = some result
  calm : factory.isCalm = true

instance {factory : ScopeFactory} : Queued (Errand factory) where
  id errand := Queued.id errand.work
  kind errand := Queued.kind errand.work
  dependency errand := Queued.dependency errand.work

/-! ## Only an abort aborts -/

theorem Ending.conclude_ne_aborted (ending : Ending) (unwinding : Unwinding) :
    ending.conclude unwinding ≠ .aborted := by
  cases unwinding <;> cases ending <;> nofun

theorem ExecutionResult.ofConclusion?_eq_aborted {conclusion : Conclusion}
    (aborted : ofConclusion? conclusion = some .aborted) : conclusion = .aborted := by
  cases conclusion <;> simp_all [ofConclusion?]

namespace Item

section

variable {σ τ : Type} [Logbook τ] [ServiceScope σ τ] (item : Item)

theorem leave_ne_aborted (guard : Option (ScopeGuard σ)) (ending : Ending) (state : τ) :
    (Start.ended (item.leave guard ending state).1 : Start σ) ≠ .ended .aborted := by
  intro same
  exact ending.conclude_ne_aborted _ (Start.ended.inj same)

theorem act_ne_aborted (guard : Option (ScopeGuard σ)) (dependency : Option Instance) (state : τ) :
    (item.act guard dependency state).1 ≠ .ended .aborted := by
  unfold Item.act
  cases item.panicEarly with
  | none => nofun
  | some text => exact item.leave_ne_aborted guard (.panicked (.text text)) state

theorem start_ne_aborted (create : τ → Opening σ × τ) (state : τ) :
    (item.start create state).1 ≠ .ended .aborted := by
  unfold Item.start
  cases item.dependency with
  | none => exact item.act_ne_aborted none none state
  | some type =>
    dsimp only
    rcases ScopeGuard.openWith create state with ⟨guard | _ | _, state⟩
    case opened =>
      show (item.enter guard type state).1 ≠ _
      unfold Item.enter
      rcases guard.resolve type state with ⟨_ | _ | _, guard, state⟩
      case resolved held => exact item.act_ne_aborted (some guard) (some held) state
      case failed failure => exact item.leave_ne_aborted (some guard) _ state
      case panicked payload _ => exact item.leave_ne_aborted (some guard) _ state
    case refused failure => exact item.leave_ne_aborted (none : Option (ScopeGuard σ)) _ state
    case panicked payload => exact item.leave_ne_aborted (none : Option (ScopeGuard σ)) _ state

end

theorem verdict?_ne_aborted (item : Item) (factory : ScopeFactory) :
    item.verdict? factory ≠ some .aborted := by
  intro aborted
  have started := item.start_ne_aborted factory.create (.ofSerial 0)
  unfold verdict? at aborted
  generalize item.start factory.create (.ofSerial 0) = start at started aborted
  rcases start with ⟨conclusion | ⟨guard, dependency⟩, journal⟩
  case ended =>
    exact started (congrArg Start.ended (ExecutionResult.ofConclusion?_eq_aborted aborted))
  case acting =>
    obtain ⟨ending, _, finished⟩ := Option.bind_eq_some_iff.mp aborted
    have conclusion := ExecutionResult.ofConclusion?_eq_aborted finished
    exact ending.conclude_ne_aborted _ conclusion

end Item

theorem Errand.result_ne_aborted {factory : ScopeFactory} (errand : Errand factory) :
    errand.result ≠ .aborted := by
  intro aborted
  apply errand.work.item.verdict?_ne_aborted factory
  rw [errand.ends, aborted]

/-! ## The task of an item -/

/-- What a step of the task of an item comes to. -/
inductive ItemRun.Progress where
  | goes (run : ItemRun)
  | ends (conclusion : Conclusion)

namespace ItemRun

/-- The task goes on, in a new turn or in the same one. -/
def refresh (run : ItemRun) (anew : Bool) : ItemRun := bif anew then run.renew else run

@[simp]
theorem refresh_wait (run : ItemRun) (anew : Bool) : (run.refresh anew).wait = run.wait := by
  cases anew <;> rfl

@[simp]
theorem refresh_steps (run : ItemRun) (anew : Bool) : (run.refresh anew).steps = run.steps := by
  cases anew <;> rfl

/-- In a new turn there is credit for more than the end of a wait. -/
theorem not_anew_of_credit {run : ItemRun} {anew : Bool} (tired : (run.refresh anew).credit ≤ 1) :
    anew = false := by
  cases anew with
  | true => simp [refresh, renew, turnLimit] at tired
  | false => rfl

def noted (run : ItemRun) (journal : Journal) (note : Option String) : Journal :=
  note.elim journal fun text => journal.write (run.label ++ ": " ++ text)

/-- Opens the scope and begins the action. -/
def begin (run : ItemRun) (factory : ScopeFactory) (journal : Journal) : Progress × Journal :=
  match run.work.item.start factory.create journal with
  | (.ended conclusion, journal) => (.ends conclusion, journal)
  | (.acting guard dependency, journal) =>
    (.goes { run with guard, dependency, wait := .yielded }, journal)

def finish (run : ItemRun) (ending : Ending) (journal : Journal) : Progress × Journal :=
  let (conclusion, journal) := run.work.item.finish run.guard ending journal
  (.ends conclusion, journal)

/-- Performs the next step of the action. -/
def advance (run : ItemRun) (now : Nat) (journal : Journal) : Progress × Journal :=
  match run.steps with
  | [] => run.finish .returned journal
  | step :: rest =>
    match run.perform now rest step with
    | .goes run note =>
      (.goes { run with steps := rest, wait := .yielded }, run.noted journal note)
    | .waits run note => (.goes run, run.noted journal note)
    | .ends ending => run.finish ending journal

/-- Goes on with the task, unless it has to wait. -/
def proceed (run : ItemRun) (factory : ScopeFactory) (now : Nat) (journal : Journal) :
    Progress × Journal :=
  match run.wait with
  | .fresh => run.begin factory journal
  | _ =>
    match run.resume now with
    | some (run, note) => run.advance now (run.noted journal note)
    | none => (.goes run, journal)

end ItemRun

/-! ## What a step of the action does -/

/-- What is left to do about a step, in milliseconds and moves of the task. -/
def Step.cost : Step → Nat
  | .sleep milliseconds => milliseconds + 1
  | _ => 1

namespace RunWait

/-- A wait that ends by itself. -/
def IsBrief : RunWait → Prop
  | .yielded | .clock _ => True
  | _ => False

def cost (now : Nat) : RunWait → Nat
  | .fresh => 1
  | .clock deadline => deadline - now
  | _ => 0

/-- Whether the task need not wait for the clock. -/
def isOver (now : Nat) : RunWait → Bool
  | .clock deadline => deadline ≤ now
  | _ => true

end RunWait

/-- What a step can come to in an action that comes to an ending. -/
inductive Stepping.Toward (run : ItemRun) (now : Nat) (step : Step) (rest : List Step)
    (ending : Ending) : Stepping → Prop where
  | goes {next : ItemRun} {note : Option String} (work : next.work = run.work)
    (guard : next.guard = run.guard) (found : endingOf? next.cancelled rest = some ending) :
    Toward run now step rest ending (.goes next note)
  | waits {wait : RunWait} (brief : wait.IsBrief) (nearer : wait.cost now < step.cost)
    (found : endingOf? run.cancelled rest = some ending) :
    Toward run now step rest ending (.waits { run with steps := rest, wait } none)
  /-- The turn is over, and the step is still to be made. -/
  | stays (spent : run.credit = 0) (found : endingOf? run.cancelled (step :: rest) = some ending) :
    Toward run now step rest ending
      (.waits { run with steps := step :: rest, wait := .yielded } none)
  | ends : Toward run now step rest ending (.ends ending)

namespace ItemRun

theorem perform_toward (run : ItemRun) (now : Nat) {step : Step} {rest : List Step}
    {ending : Ending} (found : endingOf? run.cancelled (step :: rest) = some ending) :
    (run.perform now rest step).Toward run now step rest ending := by
  cases step with
  | log text => exact .goes rfl rfl found
  | sleep milliseconds =>
    cases milliseconds with
    | zero =>
      by_cases spent : run.credit = 0
      · rw [perform, if_pos spent]
        exact .stays spent found
      · rw [perform, if_neg spent]
        exact .goes rfl rfl found
    | succ milliseconds =>
      refine .waits trivial ?_ found
      simp only [RunWait.cost, Step.cost]
      omega
  | yield => exact .waits trivial (Nat.zero_lt_one) found
  | fail root contexts =>
    cases found
    exact .ends
  | panic payload =>
    cases found
    exact .ends
  | noteDependency => exact .goes rfl rfl found
  | cancelSelf => exact .goes rfl rfl found
  | noteCancelled => exact .goes rfl rfl found
  | awaitCancelled =>
    simp only [endingOf?] at found
    split at found
    · rename_i cancelled
      simp only [perform, cancelled, if_true]
      exact .goes rfl rfl (cancelled ▸ found)
    · cases found
  | _ => cases found

/-! ## What is due -/

variable {factory : ScopeFactory}

/-- From here the action ends with a result, whatever is in the journal by then. -/
def IsDue (run : ItemRun) (result : ExecutionResult) : Prop :=
  ∃ ending, endingOf? run.cancelled run.steps = some ending ∧
    ∀ journal : Journal,
      ExecutionResult.ofConclusion? (run.work.item.finish run.guard ending journal).1 = some result

/-- The task is on its way to the result of the errand. -/
def Serves (run : ItemRun) (errand : Errand factory) : Prop :=
  match run.wait with
  | .fresh =>
    run.work = errand.work ∧ run.steps = errand.work.item.steps ∧ run.cancelled = false
  | .yielded | .clock _ => run.IsDue errand.result
  | _ => False

def Progress.Serves (errand : Errand factory) : Progress → Prop
  | .goes run => run.Serves errand
  | .ends conclusion => ExecutionResult.ofConclusion? conclusion = some errand.result

theorem ofWork_serves (errand : Errand factory) : (ofWork errand.work).Serves errand :=
  ⟨rfl, rfl, rfl⟩

variable {run : ItemRun} {errand : Errand factory}

theorem IsDue.serves (due : run.IsDue errand.result) (brief : run.wait.IsBrief) :
    run.Serves errand := by
  unfold Serves
  cases wait : run.wait with
  | yielded | clock deadline => exact due
  | _ => simp [wait, RunWait.IsBrief] at brief

theorem IsDue.spend {result : ExecutionResult} (due : run.IsDue result) :
    run.spend.IsDue result := due

theorem Serves.refresh (serves : run.Serves errand) (anew : Bool) :
    (run.refresh anew).Serves errand := by
  cases anew with
  | true => exact serves
  | false => exact serves

/-- Whatever is in the journal, the item starts as it does alone. -/
theorem begin_serves (work : run.work = errand.work)
    (steps : run.steps = errand.work.item.steps) (uncancelled : run.cancelled = false)
    (journal : Journal) : (run.begin factory journal).1.Serves errand := by
  have likeness := likeness_twins
  have ends := errand.ends
  obtain ⟨starts, _⟩ := likeness.start errand.work.item
    (fun {journal journal'} _ =>
      ⟨factory.create_twins errand.calm journal journal', Journal.unread _ _⟩)
    (journal.unread (.ofSerial 0))
  unfold Item.verdict? at ends
  unfold begin
  rw [work]
  generalize errand.work.item.start factory.create journal = start at starts ⊢
  generalize errand.work.item.start factory.create (.ofSerial 0) = alone at starts ends
  obtain ⟨start, rest⟩ := start
  obtain ⟨alone, restAlone⟩ := alone
  dsimp only at starts
  cases starts with
  | ended conclusion => exact ends
  | acting guards dependency =>
    obtain ⟨ending, found, finished⟩ := Option.bind_eq_some_iff.mp ends
    refine ⟨ending, ?_, fun journal => ?_⟩
    · show endingOf? run.cancelled run.steps = some ending
      rw [uncancelled, steps, found]
    · obtain ⟨conclusions, _⟩ := likeness.finish errand.work.item ending guards
        (journal.unread restAlone)
      show ExecutionResult.ofConclusion? (errand.work.item.finish _ ending journal).1 = _
      rw [conclusions]
      exact finished

/-- A step of the action leaves the result that is due. -/
theorem advance_serves (due : run.IsDue errand.result) (now : Nat) (journal : Journal) :
    (run.advance now journal).1.Serves errand := by
  obtain ⟨ending, found, finished⟩ := due
  unfold advance
  cases steps : run.steps with
  | nil =>
    rw [steps] at found
    cases found
    exact finished journal
  | cons step rest =>
    rw [steps] at found
    have toward := run.perform_toward now found
    dsimp only
    generalize run.perform now rest step = stepping at toward ⊢
    cases toward with
    | goes work guard found =>
      refine ⟨ending, found, fun journal => ?_⟩
      dsimp only
      rw [work, guard]
      exact finished journal
    | waits brief nearer found => exact IsDue.serves ⟨ending, found, finished⟩ brief
    | stays spent found => exact ⟨ending, found, finished⟩
    | ends => exact finished journal

theorem proceed_of_fresh (fresh : run.wait = .fresh) (now : Nat) (journal : Journal) :
    run.proceed factory now journal = run.begin factory journal := by
  unfold proceed
  rw [fresh]

/-- A task that can go on does so; the end of a wait may have cost it some credit. -/
theorem proceed_of_isOver (factory : ScopeFactory) (brief : run.wait.IsBrief) {now : Nat}
    (passed : run.wait.isOver now = true) (journal : Journal) :
    ∃ next, (next = run ∨ next = run.spend) ∧
      run.proceed factory now journal = next.advance now journal := by
  unfold proceed resume
  cases wait : run.wait with
  | yielded => exact ⟨run, Or.inl rfl, rfl⟩
  | clock deadline =>
    rw [wait, RunWait.isOver, decide_eq_true_eq] at passed
    simp only [passed, if_true]
    exact ⟨run.spend, Or.inr rfl, rfl⟩
  | _ => simp [wait, RunWait.IsBrief] at brief

/-- A task that has to wait for the clock stays as it is. -/
theorem proceed_of_not_isOver {now : Nat} (waits : run.wait.isOver now = false)
    (journal : Journal) : run.proceed factory now journal = (.goes run, journal) := by
  unfold proceed resume
  cases wait : run.wait with
  | clock deadline =>
    rw [wait, RunWait.isOver, decide_eq_false_iff_not] at waits
    simp only [waits, if_false]
  | _ => simp [wait, RunWait.isOver] at waits

/-- The task of an errand has not begun, or it is about to make a step. -/
theorem Serves.cases (serves : run.Serves errand) :
    (run.wait = .fresh ∧ run.work = errand.work ∧ run.steps = errand.work.item.steps ∧
        run.cancelled = false) ∨
      (run.wait.IsBrief ∧ run.IsDue errand.result) := by
  unfold Serves at serves
  cases wait : run.wait with
  | fresh =>
    rw [wait] at serves
    exact Or.inl ⟨rfl, serves⟩
  | yielded | clock deadline =>
    rw [wait] at serves
    exact Or.inr ⟨trivial, serves⟩
  | _ => simp [wait] at serves

theorem proceed_serves (serves : run.Serves errand) (now : Nat) (journal : Journal) :
    (run.proceed factory now journal).1.Serves errand := by
  rcases serves.cases with ⟨fresh, work, steps, uncancelled⟩ | ⟨brief, due⟩
  · rw [proceed_of_fresh fresh]
    exact begin_serves work steps uncancelled journal
  · cases passed : run.wait.isOver now with
    | false =>
      rw [proceed_of_not_isOver passed journal]
      exact serves
    | true =>
      obtain ⟨next, rfl | rfl, same⟩ := proceed_of_isOver factory brief passed journal
      · rw [same]
        exact advance_serves due now journal
      · rw [same]
        exact advance_serves due.spend now journal

/-! ## Coming to an end -/

def cost (now : Nat) (run : ItemRun) : Nat :=
  run.wait.cost now + (run.steps.map Step.cost).sum

/-- Less is left to do than `cost`; a task that is `tired` may only step back. -/
def Progress.Nears (now cost : Nat) (tired : Prop) : Progress → Prop
  | .goes next =>
    next.cost now < cost ∨ (tired ∧ next.cost now = cost ∧ next.wait.isOver now = true)
  | .ends _ => True

theorem Progress.Nears.mono {now cost : Nat} {tired tired' : Prop} {progress : Progress}
    (nears : progress.Nears now cost tired) (weaker : tired → tired') :
    progress.Nears now cost tired' := by
  cases progress with
  | goes next => exact nears.imp_right fun ⟨holds, rest⟩ => ⟨weaker holds, rest⟩
  | ends conclusion => trivial

theorem begin_nears (fresh : run.wait = .fresh) (now : Nat) (journal : Journal) (tired : Prop) :
    (run.begin factory journal).1.Nears now (run.cost now) tired := by
  unfold begin
  generalize run.work.item.start factory.create journal = start
  obtain ⟨start, rest⟩ := start
  cases start with
  | ended conclusion => trivial
  | acting guard dependency =>
    refine Or.inl ?_
    simp only [cost, fresh, RunWait.cost]
    omega

theorem advance_nears {result : ExecutionResult} (due : run.IsDue result) (now : Nat)
    (journal : Journal) :
    (run.advance now journal).1.Nears now (run.steps.map Step.cost).sum (run.credit = 0) := by
  obtain ⟨ending, found, finished⟩ := due
  unfold advance
  cases steps : run.steps with
  | nil => trivial
  | cons step rest =>
    rw [steps] at found
    have positive : 0 < step.cost := by cases step <;> exact Nat.succ_pos _
    have toward := run.perform_toward now found
    rw [List.map_cons, List.sum_cons]
    dsimp only
    generalize run.perform now rest step = stepping at toward ⊢
    cases toward with
    | goes work guard found =>
      refine Or.inl ?_
      simp only [cost, RunWait.cost]
      omega
    | waits brief nearer found =>
      refine Or.inl ?_
      simp only [cost]
      omega
    | stays spent found =>
      refine Or.inr ⟨spent, ?_, rfl⟩
      simp only [cost, RunWait.cost, List.map_cons, List.sum_cons]
      omega
    | ends => trivial

theorem proceed_nears (serves : run.Serves errand) {now : Nat}
    (passed : run.wait.isOver now = true) (journal : Journal) :
    (run.proceed factory now journal).1.Nears now (run.cost now) (run.credit ≤ 1) := by
  rcases serves.cases with ⟨fresh, _⟩ | ⟨brief, due⟩
  · rw [proceed_of_fresh fresh]
    exact begin_nears fresh now journal _
  · have ready : run.cost now = (run.steps.map Step.cost).sum := by
      unfold cost
      cases wait : run.wait with
      | clock deadline =>
        rw [wait, RunWait.isOver, decide_eq_true_eq] at passed
        rw [RunWait.cost, Nat.sub_eq_zero_of_le passed, Nat.zero_add]
      | fresh => simp [wait, RunWait.IsBrief] at brief
      | _ => exact Nat.zero_add _
    rw [ready]
    obtain ⟨next, rfl | rfl, same⟩ := proceed_of_isOver factory brief passed journal
    · rw [same]
      exact (advance_nears due now journal).mono fun spent => by omega
    · rw [same]
      exact (advance_nears due.spend now journal).mono fun spent => by
        simp only [spend] at spent
        omega

end ItemRun

end WorkHost
