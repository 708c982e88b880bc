import Mathlib.Logic.Relation
import WorkHost.Proofs.Scope.Evaluation

/-!
Contract: how a scope resolves a type, step by step.

A machine keeps the constructors that are under way, and a list of types of its own: a type
is put on it when its constructor is started and taken off it when that constructor ends. It
has no limit to how deep constructors nest. Whatever is asked of a scope, the machine comes to
one end, with the answer of the scope and what the scope keeps (`ContainerScope.resolve_ends`).
-/

namespace WorkHost

open Relation

/-- A constructor that has been started and has not ended. -/
structure Frame where
  type : ServiceType
  /-- The steps that are left; at the first of them the constructor may be waiting. -/
  steps : List BuildStep
  dependencies : List (ServiceType × Nat)
deriving DecidableEq, Repr

/-- What comes next. -/
inductive Machine.Task where
  /-- The type is asked for. -/
  | asking (type : ServiceType)
  /-- The innermost constructor goes on. -/
  | building
  /-- Whoever asked gets the answer. -/
  | returning (answer : Except Failure Instance)
  /-- A panic goes through all constructors that are under way. -/
  | panicking (payload : Payload)
deriving DecidableEq, Repr

structure Machine where
  /-- The constructors under way, the innermost first. -/
  frames : List Frame
  /-- The types under construction. -/
  resolving : List ServiceType
  stock : Stock
  task : Machine.Task
deriving DecidableEq, Repr

namespace Machine

/-! ## Steps -/

/-- Answers a request at once, or starts the constructor of the type. -/
def ask (services : List Service) (type : ServiceType) (machine : Machine) : Machine :=
  match machine.stock.holdings.find? type with
  | some held => { machine with task := .returning (.ok held) }
  | none =>
    if machine.resolving.contains type then
      { machine with task := .returning (.error (Resolution.cycle type)) }
    else
      match findService? services type with
      | none => { machine with task := .returning (.error (.resolve type.name)) }
      | some service =>
        { machine with
          frames := ⟨type, service.steps, []⟩ :: machine.frames
          resolving := type :: machine.resolving
          task := .building }

/-- The innermost constructor has come to its end. -/
def finish (frame : Frame) (outer : List Frame) (machine : Machine) : Machine :=
  let held : Instance := ⟨frame.type, machine.stock.journal.nextSerial, frame.dependencies⟩
  { frames := outer
    resolving := machine.resolving.tail
    stock :=
      ⟨machine.stock.holdings.add frame.type held,
        machine.stock.journal.advance.write ("new " ++ held.text)⟩
    task := .returning (.ok held) }

/-- The innermost constructor has failed. -/
def giveUp (frame : Frame) (outer : List Frame) (reason : String) (machine : Machine) : Machine :=
  { machine with
    frames := outer
    resolving := machine.resolving.tail
    task := .returning (.error (Resolution.constructionFailed frame.type reason)) }

/-- The innermost constructor goes on after the steps that are left. -/
def goOn (frame : Frame) (outer : List Frame) (machine : Machine) : Machine :=
  { machine with frames := frame :: outer, task := .building }

def build (frame : Frame) (outer : List Frame) (machine : Machine) : Machine :=
  match frame.steps with
  | [] => machine.finish frame outer
  | .get type :: _ | .tryGet type :: _ => { machine with task := .asking type }
  | .fail root contexts :: _ => machine.giveUp frame outer (Failure.chain root contexts)
  | .panic message :: _ => { machine with task := .panicking (.text message) }
  | .log text :: steps =>
    { machine with stock := machine.stock.write (frame.type.label ++ ": " ++ text) }.goOn
      { frame with steps } outer

/-- An instance has to be of the type that was asked for. -/
def accept (type : ServiceType) : Except Failure Instance → Except Failure Instance
  | .ok held => if held.type = type then .ok held else .error (Resolution.wrongType type)
  | .error failure => .error failure

/-- The innermost constructor gets the answer that it waits for. -/
def receive (frame : Frame) (outer : List Frame) (answer : Except Failure Instance)
    (machine : Machine) : Option Machine :=
  match frame.steps with
  | .get type :: steps =>
    match accept type answer with
    | .ok held =>
      let dependencies := frame.dependencies ++ [(type, held.serial)]
      some (machine.goOn ⟨frame.type, steps, dependencies⟩ outer)
    | .error failure => some (machine.giveUp frame outer failure.message)
  | .tryGet type :: steps =>
    match accept type answer with
    | .ok held =>
      let dependencies := frame.dependencies ++ [(type, held.serial)]
      some (machine.goOn ⟨frame.type, steps, dependencies⟩ outer)
    | .error failure =>
      let line := frame.type.label ++ " swallowed: " ++ failure.message
      some ({ machine with stock := machine.stock.write line }.goOn { frame with steps } outer)
  | _ => none

/-- One step, as long as the request has not come to its end. -/
def step (services : List Service) (machine : Machine) : Option Machine :=
  match machine.task, machine.frames with
  | .asking type, _ => some (machine.ask services type)
  | .building, frame :: outer => some (machine.build frame outer)
  | .returning answer, frame :: outer => machine.receive frame outer answer
  | .building, [] | .returning _, [] | .panicking _, _ => none

/-- What the request has come to, if it is at its end. -/
def outcome? (machine : Machine) : Option Resolution :=
  match machine.task, machine.frames with
  | .returning (.ok held), [] => some (.resolved held)
  | .returning (.error failure), [] => some (.failed failure)
  | .panicking payload, _ => some (.panicked payload machine.resolving)
  | _, _ => none

/-- The second moment is the first one or comes after it. -/
abbrev Runs (services : List Service) : Machine → Machine → Prop :=
  ReflTransGen fun earlier later => earlier.step services = some later

/-- The machine comes to its end. -/
structure Ends (services : List Service) (machine last : Machine) : Prop where
  runs : machine.Runs services last
  stops : last.step services = none

section Runs

variable {services : List Service} {machine first second last : Machine}

theorem Runs.of_step (steps : machine.step services = some first) :
    machine.Runs services first := .single steps

/-- There is one way to go on. -/
theorem Runs.total (runs : machine.Runs services first) (others : machine.Runs services second) :
    first.Runs services second ∨ second.Runs services first := by
  refine ReflTransGen.total_of_right_unique ?_ runs others
  intro earlier later later' steps steps'
  exact Option.some.inj (steps.symm.trans steps')

theorem Runs.eq_of_stops (runs : last.Runs services machine)
    (stops : last.step services = none) : machine = last := by
  rcases runs.cases_head with same | ⟨next, steps, -⟩
  · exact same.symm
  · cases stops.symm.trans steps

theorem Ends.unique (ends : machine.Ends services first) (others : machine.Ends services second) :
    first = second := by
  rcases ends.runs.total others.runs with later | later
  · exact (later.eq_of_stops ends.stops).symm
  · exact later.eq_of_stops others.stops

/-- Whatever is reached on the way comes to the same end. -/
theorem Ends.of_runs (ends : machine.Ends services last) (runs : machine.Runs services first) :
    first.Ends services last := by
  refine ⟨?_, ends.stops⟩
  rcases ends.runs.total runs with later | later
  · rw [later.eq_of_stops ends.stops]
  · exact later

/-- A machine that comes to its end makes only so many steps. -/
theorem Ends.acc (ends : machine.Ends services last) :
    Acc (fun later earlier => earlier.step services = some later) machine := by
  obtain ⟨runs, stops⟩ := ends
  induction runs using ReflTransGen.head_induction_on with
  | refl =>
    constructor
    intro later steps
    cases stops.symm.trans steps
  | head steps runs inductionHypothesis =>
    constructor
    intro later steps'
    cases steps.symm.trans steps'
    exact inductionHypothesis

end Runs

/-! ## The rules in steps -/

/-- How the machine stands when a request has come to an end that was made with these
constructors under way and these types under construction. -/
inductive Settles (frames : List Frame) (stack : List ServiceType) (rest : Stock) :
    Resolution → Machine → Prop where
  | resolved (held : Instance) :
    Settles frames stack rest (.resolved held) ⟨frames, stack, rest, .returning (.ok held)⟩
  | failed (failure : Failure) :
    Settles frames stack rest (.failed failure) ⟨frames, stack, rest, .returning (.error failure)⟩
  /-- The constructors that were started since then have not ended. -/
  | panicked (payload : Payload) (inner : List Frame) :
    Settles frames stack rest (.panicked payload (inner.map Frame.type ++ stack))
      ⟨inner ++ frames, inner.map Frame.type ++ stack, rest, .panicking payload⟩

/-- The request comes to the answer, with these constructors under way. -/
def Comes (services : List Service) (frames : List Frame) (stack : List ServiceType)
    (machine : Machine) (answer : Resolution) (rest : Stock) : Prop :=
  ∃ last, Settles frames stack rest answer last ∧ machine.Runs services last

section Rules

variable {services : List Service} {frames outer : List Frame} {stack under : List ServiceType}
  {type other : ServiceType} {stock middle rest : Stock} {held : Instance} {failure : Failure}
  {payload : Payload} {answer : Resolution} {machine next : Machine} {asking : BuildStep}
  {steps : List BuildStep} {dependencies : List (ServiceType × Nat)}

theorem step_held (found : stock.holdings.find? type = some held) :
    step services ⟨frames, stack, stock, .asking type⟩ =
      some ⟨frames, stack, stock, .returning (.ok held)⟩ := by
  simp only [step, ask, found]

theorem step_cyclic (missing : stock.holdings.find? type = none) (busy : type ∈ stack) :
    step services ⟨frames, stack, stock, .asking type⟩ =
      some ⟨frames, stack, stock, .returning (.error (Resolution.cycle type))⟩ := by
  simp only [step, ask, missing, List.contains_iff_mem.mpr busy, if_true]

theorem step_unregistered (missing : stock.holdings.find? type = none) (idle : type ∉ stack)
    (unknown : findService? services type = none) :
    step services ⟨frames, stack, stock, .asking type⟩ =
      some ⟨frames, stack, stock, .returning (.error (.resolve type.name))⟩ := by
  have calm : stack.contains type = false := by simpa using idle
  simp only [step, ask, missing, calm, unknown, Bool.false_eq_true, if_false]

theorem step_enter {service : Service} (missing : stock.holdings.find? type = none)
    (idle : type ∉ stack) (registered : findService? services type = some service) :
    step services ⟨frames, stack, stock, .asking type⟩ =
      some ⟨⟨type, service.steps, []⟩ :: frames, type :: stack, stock, .building⟩ := by
  have calm : stack.contains type = false := by simpa using idle
  simp only [step, ask, missing, calm, registered, Bool.false_eq_true, if_false]

theorem step_asks (asks : asking.asked? = some other) :
    step services ⟨⟨type, asking :: steps, dependencies⟩ :: outer, stack, stock, .building⟩ =
      some ⟨⟨type, asking :: steps, dependencies⟩ :: outer, stack, stock, .asking other⟩ := by
  cases asking with
  | get wanted | tryGet wanted =>
    cases asks
    rfl
  | fail root contexts | panic message | log text => cases asks

theorem step_obtained (asks : asking.asked? = some other) (typed : held.type = other) :
    step services ⟨⟨type, asking :: steps, dependencies⟩ :: outer, stack, stock,
        .returning (.ok held)⟩ =
      some ⟨⟨type, steps, dependencies ++ [(other, held.serial)]⟩ :: outer, stack, stock,
        .building⟩ := by
  cases asking with
  | get wanted | tryGet wanted =>
    cases asks
    simp only [step, receive, accept, typed, if_true, goOn]
  | fail root contexts | panic message | log text => cases asks

namespace Comes

theorem head (comes : Comes services frames stack next answer rest)
    (steps : machine.step services = some next) :
    Comes services frames stack machine answer rest := by
  obtain ⟨last, settles, runs⟩ := comes
  exact ⟨last, settles, runs.head steps⟩

theorem trans (runs : machine.Runs services next)
    (comes : Comes services frames stack next answer rest) :
    Comes services frames stack machine answer rest := by
  obtain ⟨last, settles, later⟩ := comes
  exact ⟨last, settles, runs.trans later⟩

theorem resolved (steps : machine.step services =
      some ⟨frames, stack, rest, .returning (.ok held)⟩) :
    Comes services frames stack machine (.resolved held) rest :=
  ⟨_, .resolved held, .of_step steps⟩

theorem failed (steps : machine.step services =
      some ⟨frames, stack, rest, .returning (.error failure)⟩) :
    Comes services frames stack machine (.failed failure) rest :=
  ⟨_, .failed failure, .of_step steps⟩

theorem runs_resolved (comes : Comes services frames stack machine (.resolved held) rest) :
    machine.Runs services ⟨frames, stack, rest, .returning (.ok held)⟩ := by
  obtain ⟨last, settles, runs⟩ := comes
  cases settles
  exact runs

theorem runs_failed (comes : Comes services frames stack machine (.failed failure) rest) :
    machine.Runs services ⟨frames, stack, rest, .returning (.error failure)⟩ := by
  obtain ⟨last, settles, runs⟩ := comes
  cases settles
  exact runs

/-- A panic leaves the constructor under way in which it comes up. -/
theorem outward {left : List ServiceType} {frame : Frame}
    (comes : Comes services (frame :: outer) (frame.type :: stack) machine
      (.panicked payload left) rest) :
    Comes services outer stack machine (.panicked payload left) rest := by
  obtain ⟨last, settles, runs⟩ := comes
  cases settles with
  | panicked payload inner =>
    have wider := @Settles.panicked outer stack rest payload (inner ++ [frame])
    simp only [List.map_append, List.map_cons, List.map_nil, List.append_assoc,
      List.singleton_append] at wider
    exact ⟨_, wider, runs⟩

/-- A constructor goes on with what it has asked for. -/
theorem obtained (asks : asking.asked? = some other) (typed : held.type = other)
    (first : ∀ frames, Comes services frames under ⟨frames, under, stock, .asking other⟩
      (.resolved held) middle)
    (later : Comes services outer stack
      ⟨⟨type, steps, dependencies ++ [(other, held.serial)]⟩ :: outer, under, middle, .building⟩
      answer rest) :
    Comes services outer stack
      ⟨⟨type, asking :: steps, dependencies⟩ :: outer, under, stock, .building⟩ answer rest := by
  have back := later.head (step_obtained asks typed)
  exact (trans (first _).runs_resolved back).head (step_asks asks)

/-- A failure of a `get` is the constructor's. -/
theorem refused
    (first : ∀ frames, Comes services frames (type :: stack)
      ⟨frames, type :: stack, stock, .asking other⟩ (.failed failure) rest) :
    Comes services outer stack
      ⟨⟨type, .get other :: steps, dependencies⟩ :: outer, type :: stack, stock, .building⟩
      (.failed (Resolution.constructionFailed type failure.message)) rest := by
  have back := first (⟨type, .get other :: steps, dependencies⟩ :: outer)
  exact (trans back.runs_failed (.failed rfl)).head rfl

/-- A failure of a `tryGet` is only noted. -/
theorem swallowed
    (first : ∀ frames, Comes services frames under ⟨frames, under, stock, .asking other⟩
      (.failed failure) middle)
    (later : Comes services outer stack
      ⟨⟨type, steps, dependencies⟩ :: outer, under,
        middle.write (type.label ++ " swallowed: " ++ failure.message), .building⟩ answer rest) :
    Comes services outer stack
      ⟨⟨type, .tryGet other :: steps, dependencies⟩ :: outer, under, stock, .building⟩
      answer rest := by
  have back := first (⟨type, .tryGet other :: steps, dependencies⟩ :: outer)
  exact (trans back.runs_failed (later.head rfl)).head rfl

end Comes

end Rules

end Machine

mutual

theorem Resolves.comes {services : List Service} {stack : List ServiceType}
    {type : ServiceType} {stock rest : Stock} {answer : Resolution} {visits : List Visit} :
    Resolves services stack type stock answer rest visits → stock.holdings.Sound stack →
      ∀ frames, Machine.Comes services frames stack ⟨frames, stack, stock, .asking type⟩ answer
        rest
  | .held found, sound, frames => .resolved (Machine.step_held found)
  | .cyclic missing busy, sound, frames => .failed (Machine.step_cyclic missing busy)
  | .unregistered missing idle unknown, sound, frames =>
    .failed (Machine.step_unregistered missing idle unknown)
  | .ran construction missing idle registered builds, sound, frames =>
    (builds.comes rfl (sound.push missing idle) frames).head
      (Machine.step_enter missing idle registered)

theorem Builds.comes {services : List Service} {stack under : List ServiceType}
    {type : ServiceType} {steps : List BuildStep} {dependencies : List (ServiceType × Nat)}
    {stock rest : Stock} {construction : Construction} {visits : List Visit} :
    Builds services type under steps dependencies stock construction rest visits →
      under = type :: stack → stock.holdings.Sound under →
        ∀ outer, Machine.Comes services outer stack
          ⟨⟨type, steps, dependencies⟩ :: outer, under, stock, .building⟩
          (construction.answer type) (construction.keep type rest)
  | .finished made, pushed, sound, outer => by
    subst made pushed
    exact .resolved rfl
  | .obtained asks resolves builds, pushed, sound, outer => by
    have answers := resolves.answers sound
    exact .obtained asks (answers.typed _ rfl) (fun frames => resolves.comes sound frames)
      (builds.comes pushed answers.sound outer)
  | .refused resolves, pushed, sound, outer => by
    have first := fun frames => resolves.comes sound frames
    subst pushed
    exact .refused first
  | .swallowed resolves builds, pushed, sound, outer =>
    .swallowed (fun frames => resolves.comes sound frames)
      (builds.comes pushed (resolves.answers sound).sound outer)
  | .interrupted asks resolves, pushed, sound, outer => by
    have first := fun frames => resolves.comes sound frames
    subst pushed
    exact ((first (⟨type, _, dependencies⟩ :: outer)).head (Machine.step_asks asks)).outward
  | .failed, pushed, sound, outer => by
    subst pushed
    exact .failed rfl
  | .panicked, pushed, sound, outer => by
    subst pushed
    exact ⟨_, .panicked _ [⟨type, _, dependencies⟩], .of_step rfl⟩
  | .noted builds, pushed, sound, outer => (builds.comes pushed sound outer).head rfl

end

/-! ## A request to a scope -/

/-- The type is asked of the scope. -/
def Machine.start (scope : ContainerScope) (type : ServiceType) (journal : Journal) : Machine :=
  ⟨[], scope.resolving, ⟨scope.holdings, journal⟩, .asking type⟩

namespace Machine

/-- The machine is at its end with this answer, and with what the scope keeps. -/
structure Yields (last : Machine) (answer : Resolution) (scope : ContainerScope)
    (journal : Journal) : Prop where
  outcome : last.outcome? = some answer
  resolving : last.resolving = scope.resolving
  stock : last.stock = ⟨scope.holdings, journal⟩

theorem Settles.outcome {stack : List ServiceType} {rest : Stock} {answer : Resolution}
    {last : Machine} (settles : Settles [] stack rest answer last) :
    last.outcome? = some answer ∧ last.resolving = answer.underConstruction stack ∧
      last.stock = rest := by
  cases settles with
  | resolved held | failed failure | panicked payload inner => exact ⟨rfl, rfl, rfl⟩

theorem Settles.stops {stack : List ServiceType} {rest : Stock} {answer : Resolution}
    {last : Machine} (settles : Settles [] stack rest answer last) (services : List Service) :
    last.step services = none := by
  cases settles with
  | resolved held | failed failure | panicked payload inner => rfl

end Machine

/-- Whatever is asked of a scope, its machine comes to an end with the scope's answer and
what the scope keeps. -/
theorem ContainerScope.resolve_ends {scope : ContainerScope} (sound : scope.Sound)
    (type : ServiceType) (journal : Journal) :
    let resolved := scope.resolve type journal
    ∃ last, (Machine.start scope type journal).Ends scope.services last ∧
      last.Yields resolved.1 resolved.2.1 resolved.2.2 := by
  intro resolved
  obtain ⟨visits, resolves⟩ := scope.resolve_resolves sound type journal
  obtain ⟨last, settles, runs⟩ := resolves.comes sound []
  obtain ⟨outcome, resolving, stock⟩ := settles.outcome
  exact ⟨last, ⟨runs, settles.stops _⟩, outcome,
    resolving.trans (resolve_resolving sound type journal).symm, stock⟩

end WorkHost
