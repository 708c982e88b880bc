import WorkHost.Proofs.Scope.Machine

/-!
Contract: the constructors that are under way while a scope resolves a type.

At every moment of a request the types under construction are those of the constructors under
way, on top of what was under construction before; each of them is the constructor of a
registered service, run because the next outer one asks for its type (`Machine.Orderly`). A
step keeps this (`Machine.step_orderly`), so that it holds at every moment of a request
(`Machine.run_orderly`), also of one that a constructor makes (`Machine.Orderly.settles`).
-/

namespace WorkHost

/-- The type that the constructor waits for, if it waits. -/
def Frame.awaited? (frame : Frame) : Option ServiceType := frame.steps.head?.bind BuildStep.asked?

/-- The constructor is that of a registered service, and these are the last of its steps. -/
def Frame.Placed (services : List Service) (frame : Frame) : Prop :=
  ∃ service, findService? services frame.type = some service ∧ frame.steps <:+ service.steps

/-- The type is asked for by the innermost of the constructors, each of which is run because
the next outer one asks for its type; the outermost is run because of the first request. -/
inductive Awaits (root : ServiceType) : List Frame → ServiceType → Prop where
  | root : Awaits root [] root
  | nested {frame : Frame} {outer : List Frame} {other : ServiceType} :
    Awaits root outer frame.type → frame.awaited? = some other →
      Awaits root (frame :: outer) other

namespace Machine

/-- Why the constructors are under way; what is obtained is of the type that is awaited. -/
def Linked (root : ServiceType) (machine : Machine) : Prop :=
  match machine.task, machine.frames with
  | .asking type, frames => Awaits root frames type
  | .returning answer, frames =>
    ∃ type, Awaits root frames type ∧ ∀ held, answer = .ok held → held.type = type
  | .building, frames | .panicking _, frames =>
    ∃ frame outer, frames = frame :: outer ∧ Awaits root outer frame.type

/-- How a machine stands at any moment of a request for a type that was made while the types
`before` were under construction. -/
structure Orderly (services : List Service) (before : List ServiceType) (root : ServiceType)
    (machine : Machine) : Prop where
  stacked : machine.resolving = machine.frames.map Frame.type ++ before
  sound : machine.stock.holdings.Sound machine.resolving
  placed : ∀ frame ∈ machine.frames, frame.Placed services
  linked : machine.Linked root

section Orderly

variable {services : List Service} {before resolving : List ServiceType} {root type : ServiceType}
  {frames outer : List Frame} {frame : Frame} {stock rest : Stock} {task : Task}
  {machine next : Machine} {answer : Except Failure Instance}

theorem start_orderly {scope : ContainerScope} (sound : scope.Sound) (type : ServiceType)
    (journal : Journal) : (start scope type journal).Orderly scope.services scope.resolving type :=
  ⟨rfl, sound, nofun, .root⟩

namespace Orderly

/-- The innermost constructor is run because its type was asked for. -/
theorem awaits (orderly : Orderly services before root ⟨frame :: outer, resolving, stock, task⟩) :
    Awaits root outer frame.type := by
  have linked := orderly.linked
  cases task with
  | asking type =>
    cases linked with
    | nested awaits => exact awaits
  | returning answer =>
    obtain ⟨type, linked, -⟩ := linked
    cases linked with
    | nested awaits => exact awaits
  | building | panicking payload =>
    obtain ⟨_, _, same, awaits⟩ := linked
    cases same
    exact awaits

/-- A request is answered at once. -/
theorem reply (orderly : Orderly services before root ⟨frames, resolving, stock, .asking type⟩)
    (typed : ∀ held, answer = .ok held → held.type = type) :
    Orderly services before root ⟨frames, resolving, stock, .returning answer⟩ :=
  ⟨orderly.stacked, orderly.sound, orderly.placed, type, orderly.linked, typed⟩

theorem refuse (orderly : Orderly services before root ⟨frames, resolving, stock, .asking type⟩)
    (failure : Failure) :
    Orderly services before root ⟨frames, resolving, stock, .returning (.error failure)⟩ := by
  refine orderly.reply ?_
  intro held same
  cases same

theorem enter {service : Service}
    (orderly : Orderly services before root ⟨frames, resolving, stock, .asking type⟩)
    (missing : stock.holdings.find? type = none) (idle : type ∉ resolving)
    (registered : findService? services type = some service) :
    Orderly services before root
      ⟨⟨type, service.steps, []⟩ :: frames, type :: resolving, stock, .building⟩ where
  stacked := congrArg (List.cons type) orderly.stacked
  sound := orderly.sound.push missing idle
  placed := List.forall_mem_cons.mpr ⟨⟨service, registered, List.suffix_rfl⟩, orderly.placed⟩
  linked := ⟨_, _, rfl, orderly.linked⟩

/-- The innermost constructor ends. -/
theorem leave (orderly : Orderly services before root ⟨frame :: outer, resolving, stock, task⟩)
    (sound : rest.holdings.Sound resolving.tail)
    (typed : ∀ held, answer = .ok held → held.type = frame.type) :
    Orderly services before root ⟨outer, resolving.tail, rest, .returning answer⟩ where
  stacked := congrArg List.tail orderly.stacked
  sound := sound
  placed := (List.forall_mem_cons.mp orderly.placed).2
  linked := ⟨frame.type, orderly.awaits, typed⟩

/-- The innermost constructor fails. -/
theorem giveUp (orderly : Orderly services before root ⟨frame :: outer, resolving, stock, task⟩)
    (sound : stock.holdings.Sound resolving.tail) (failure : Failure) :
    Orderly services before root ⟨outer, resolving.tail, stock, .returning (.error failure)⟩ := by
  refine orderly.leave sound ?_
  intro held same
  cases same

/-- The innermost constructor goes on. -/
theorem goOn {steps : List BuildStep} {dependencies : List (ServiceType × Nat)}
    (orderly : Orderly services before root ⟨frame :: outer, resolving, stock, task⟩)
    (later : steps <:+ frame.steps) (same : rest.holdings = stock.holdings) :
    Orderly services before root
      ⟨⟨frame.type, steps, dependencies⟩ :: outer, resolving, rest, .building⟩ where
  stacked := orderly.stacked
  sound := by
    rw [same]
    exact orderly.sound
  placed := by
    obtain ⟨⟨service, registered, left⟩, others⟩ := List.forall_mem_cons.mp orderly.placed
    exact List.forall_mem_cons.mpr ⟨⟨service, registered, later.trans left⟩, others⟩
  linked := ⟨_, _, rfl, orderly.awaits⟩

end Orderly

theorem ask_orderly
    (orderly : Orderly services before root ⟨frames, resolving, stock, .asking type⟩) :
    Orderly services before root (ask services type ⟨frames, resolving, stock, .asking type⟩) := by
  cases found : stock.holdings.find? type with
  | some held =>
    simp only [ask, found]
    refine orderly.reply ?_
    intro other same
    cases same
    exact orderly.sound.type_of_find? found
  | none =>
    by_cases busy : type ∈ resolving
    · simp only [ask, found, List.contains_iff_mem.mpr busy, if_true]
      exact orderly.refuse _
    · have calm : resolving.contains type = false := by simpa using busy
      cases registered : findService? services type with
      | none =>
        simp only [ask, found, calm, registered, Bool.false_eq_true, if_false]
        exact orderly.refuse _
      | some service =>
        simp only [ask, found, calm, registered, Bool.false_eq_true, if_false]
        exact orderly.enter found busy registered

theorem build_orderly
    (orderly : Orderly services before root ⟨frame :: outer, resolving, stock, .building⟩) :
    Orderly services before root
      (build frame outer ⟨frame :: outer, resolving, stock, .building⟩) := by
  have stacked : resolving = frame.type :: (outer.map Frame.type ++ before) := orderly.stacked
  subst stacked
  obtain ⟨type, steps, dependencies⟩ := frame
  cases steps with
  | nil =>
    refine orderly.leave (orderly.sound.add rfl) ?_
    intro held same
    cases same
    rfl
  | cons step steps =>
    cases step with
    | get other | tryGet other =>
      exact ⟨orderly.stacked, orderly.sound, orderly.placed, .nested orderly.awaits rfl⟩
    | fail root contexts => exact orderly.giveUp orderly.sound.pop _
    | panic message => exact ⟨orderly.stacked, orderly.sound, orderly.placed, orderly.linked⟩
    | log text => exact orderly.goOn (List.suffix_cons _ _) rfl

theorem receive_orderly
    (orderly : Orderly services before root ⟨frame :: outer, resolving, stock, .returning answer⟩)
    (receives : receive frame outer answer ⟨frame :: outer, resolving, stock, .returning answer⟩ =
      some next) : Orderly services before root next := by
  have stacked : resolving = frame.type :: (outer.map Frame.type ++ before) := orderly.stacked
  subst stacked
  obtain ⟨type, _ | ⟨step, steps⟩, dependencies⟩ := frame
  · cases receives
  cases step with
  | get other =>
    simp only [receive] at receives
    split at receives
    · cases receives
      exact orderly.goOn (List.suffix_cons _ _) rfl
    · cases receives
      exact orderly.giveUp orderly.sound.pop _
  | tryGet other =>
    simp only [receive] at receives
    split at receives
    · cases receives
      exact orderly.goOn (List.suffix_cons _ _) rfl
    · cases receives
      exact orderly.goOn (List.suffix_cons _ _) rfl
  | fail root contexts | panic message | log text => cases receives

theorem step_orderly (orderly : machine.Orderly services before root)
    (steps : machine.step services = some next) : next.Orderly services before root := by
  obtain ⟨frames, resolving, stock, task⟩ := machine
  cases task with
  | asking type =>
    cases steps
    exact ask_orderly orderly
  | building =>
    cases frames with
    | nil => cases steps
    | cons frame outer =>
      cases steps
      exact build_orderly orderly
  | returning answer =>
    cases frames with
    | nil => cases steps
    | cons frame outer => exact receive_orderly orderly steps
  | panicking payload => cases steps

theorem run_orderly (orderly : machine.Orderly services before root)
    (runs : machine.Runs services next) : next.Orderly services before root := by
  induction runs with
  | refl => exact orderly
  | tail runs steps inductionHypothesis => exact step_orderly inductionHypothesis steps

/-- Any request comes to an end, also one that a constructor makes. With an answer all is
under construction that was before; with a panic, also what has been started since. -/
theorem Orderly.settles
    (orderly : Orderly services before root ⟨frames, resolving, stock, .asking type⟩) :
    (∃ answer rest, Runs services ⟨frames, resolving, stock, .asking type⟩
        ⟨frames, resolving, rest, .returning answer⟩) ∨
      ∃ payload inner rest, Runs services ⟨frames, resolving, stock, .asking type⟩
        ⟨inner ++ frames, inner.map Frame.type ++ resolving, rest, .panicking payload⟩ := by
  obtain ⟨visits, resolves⟩ := resolveTrusting_resolves services services.length resolving type
    stock List.countP_le_length
  obtain ⟨last, settles, runs⟩ := resolves.comes orderly.sound frames
  generalize (resolveTrusting services services.length resolving type stock).1 = answer at settles
  cases settles with
  | resolved held => exact .inl ⟨_, _, runs⟩
  | failed failure => exact .inl ⟨_, _, runs⟩
  | panicked payload inner => exact .inr ⟨payload, inner, _, runs⟩

/-- At the end of a request no constructor is under way, if it does not panic. -/
theorem eq_nil_of_stops (stops : machine.step services = none)
    (orderly : machine.Orderly services before root) :
    ((∃ answer, machine.task = .returning answer) ∧ machine.frames = []) ∨
      ∃ payload, machine.task = .panicking payload := by
  obtain ⟨frames, resolving, stock, task⟩ := machine
  cases task with
  | asking type => cases stops
  | building =>
    obtain ⟨frame, outer, rfl, awaits⟩ := orderly.linked
    cases stops
  | returning answer =>
    obtain ⟨type, awaits, -⟩ := orderly.linked
    cases awaits with
    | root => exact .inl ⟨⟨answer, rfl⟩, rfl⟩
    | @nested frame outer _ awaits waits =>
      obtain ⟨type, _ | ⟨step, steps⟩, dependencies⟩ := frame
      · cases waits
      · cases step with
        | get other | tryGet other =>
          simp only [step, receive] at stops
          split at stops <;> cases stops
        | fail root contexts | panic message | log text => cases waits
  | panicking payload => exact .inr ⟨payload, rfl⟩

end Orderly

end Machine

end WorkHost
