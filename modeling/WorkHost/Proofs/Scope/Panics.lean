import WorkHost.Proofs.Scope.Instances
import WorkHost.Proofs.Scope.Nesting

/-!
Contract: what a panic of a constructor leaves behind in a scope.

A request that gets an answer leaves the types under construction as they were, also one
that a constructor makes; one that panics leaves those of the constructors under way on top
of them. So the types that stay under construction between two requests are those that were
under construction at a panic (`Life.mem_resolving_run_iff`). Such a type is never held again.
It stands in the way of nothing but what reaches it: for any other type it makes no
difference (`ContainerScope.resolve_above`). Together: `panics_poison_exactly`.
-/

namespace WorkHost

open Relation

/-- The constructor of the type has a step that asks for the other one. -/
def AsksFor (services : List Service) (type other : ServiceType) : Prop :=
  ∃ service, findService? services type = some service ∧
    ∃ step ∈ service.steps, step.asked? = some other

/-- What the answer would be if the types `below` had also been under construction. -/
def Resolution.above (below : List ServiceType) : Resolution → Resolution
  | .panicked payload interrupted => .panicked payload (interrupted ++ below)
  | .resolved held => .resolved held
  | .failed failure => .failed failure

/-- Whatever is asked for can be reached from the first request. -/
theorem Awaits.reaches {services : List Service} {root type : ServiceType} {frames : List Frame}
    (awaits : Awaits root frames type)
    (placed : ∀ frame ∈ frames, frame.Placed services) :
    ReflTransGen (AsksFor services) root type := by
  induction awaits with
  | root => exact .refl
  | nested awaits waits inductionHypothesis =>
    obtain ⟨⟨service, registered, left⟩, others⟩ := List.forall_mem_cons.mp placed
    obtain ⟨step, first, asks⟩ := Option.bind_eq_some_iff.mp waits
    have isStep := left.subset (List.mem_of_mem_head? first)
    exact (inductionHypothesis others).tail ⟨service, registered, step, isStep, asks⟩

namespace Machine

/-! ## Types below that are not asked for -/

/-- The same moment if the types `below` had also been under construction from the start. -/
def above (below : List ServiceType) (machine : Machine) : Machine :=
  { machine with resolving := machine.resolving ++ below }

section Above

variable {services : List Service} {below : List ServiceType} {root : ServiceType}
  {machine next : Machine}

theorem ask_above {type : ServiceType} (apart : type ∉ below) :
    (machine.above below).ask services type = (machine.ask services type).above below := by
  have same : (machine.resolving ++ below).contains type = machine.resolving.contains type := by
    simp [apart]
  simp only [ask, above, same]
  split
  · rfl
  · split
    · rfl
    · split <;> rfl

theorem step_above (orderly : machine.Orderly services [] root)
    (apart : ∀ type ∈ below, ¬ ReflTransGen (AsksFor services) root type)
    (steps : machine.step services = some next) :
    (machine.above below).step services = some (next.above below) := by
  obtain ⟨frames, resolving, stock, task⟩ := machine
  have stacked : resolving = frames.map Frame.type := orderly.stacked.trans (List.append_nil _)
  cases task with
  | asking type =>
    cases steps
    have reaches := orderly.linked.reaches orderly.placed
    exact congrArg some (ask_above fun isBelow => apart type isBelow reaches)
  | building =>
    obtain ⟨⟨type, waiting, dependencies⟩, outer, rfl, -⟩ := orderly.linked
    subst stacked
    cases steps
    cases waiting with
    | nil => rfl
    | cons step waiting => cases step <;> rfl
  | returning answer =>
    rcases frames with _ | ⟨⟨type, _ | ⟨step, waiting⟩, dependencies⟩, outer⟩
    · cases steps
    · cases steps
    · subst stacked
      cases step with
      | get other | tryGet other =>
        simp only [Machine.step, receive, above] at steps ⊢
        split at steps <;> (cases steps; rfl)
      | fail root contexts | panic message | log text => cases steps
  | panicking payload => cases steps

theorem run_above (orderly : machine.Orderly services [] root)
    (apart : ∀ type ∈ below, ¬ ReflTransGen (AsksFor services) root type)
    (runs : machine.Runs services next) :
    (machine.above below).Runs services (next.above below) := by
  induction runs with
  | refl => exact .refl
  | tail runs steps inductionHypothesis =>
    exact inductionHypothesis.tail (step_above (run_orderly orderly runs) apart steps)

theorem stops_above (stops : machine.step services = none) :
    (machine.above below).step services = none := by
  obtain ⟨frames, resolving, stock, task⟩ := machine
  cases task with
  | asking type => cases stops
  | building | panicking payload =>
    cases frames with
    | nil => rfl
    | cons frame outer => first | rfl | cases stops
  | returning answer =>
    rcases frames with _ | ⟨⟨type, _ | ⟨step, waiting⟩, dependencies⟩, outer⟩
    · rfl
    · rfl
    · cases step with
      | get other | tryGet other =>
        simp only [step, receive] at stops
        split at stops <;> cases stops
      | fail root contexts | panic message | log text => rfl

theorem outcome?_above (below : List ServiceType) (machine : Machine) :
    (machine.above below).outcome? = machine.outcome?.map (Resolution.above below) := by
  obtain ⟨_ | ⟨frame, outer⟩, resolving, stock, type | _ | answer | payload⟩ := machine
  case nil.returning => cases answer <;> rfl
  case cons.returning => cases answer <;> rfl
  all_goals rfl

end Above

end Machine

namespace ContainerScope

/-- Types under construction that cannot be reached from a type do not matter for it. -/
theorem resolve_above {scope : ContainerScope} (sound : scope.Sound) {type : ServiceType}
    (apart : ∀ other ∈ scope.resolving, ¬ ReflTransGen (AsksFor scope.services) type other)
    (journal : Journal) :
    let alone := resolve { scope with resolving := [] } type journal
    scope.resolve type journal =
      (alone.1.above scope.resolving,
        { alone.2.1 with resolving := alone.2.1.resolving ++ scope.resolving }, alone.2.2) := by
  intro alone
  have aloneSound : ContainerScope.Sound { scope with resolving := [] } :=
    { sound with
      underConstruction_nodup := List.nodup_nil
      disjoint := List.disjoint_nil_left _ }
  obtain ⟨last, ends, outcome, resolving, stock⟩ := resolve_ends sound type journal
  obtain ⟨last', ends', outcome', resolving', stock'⟩ := resolve_ends aloneSound type journal
  have runs := Machine.run_above (Machine.start_orderly aloneSound type journal) apart ends'.runs
  obtain rfl := ends.unique ⟨runs, Machine.stops_above ends'.stops⟩
  rw [Machine.outcome?_above, outcome'] at outcome
  have stocks := stock.symm.trans stock'
  refine Prod.ext (Option.some.inj outcome).symm (Prod.ext ?_ (congrArg Stock.journal stocks))
  have holdings := congrArg Stock.holdings stocks
  have stack := resolving.symm.trans (congrArg (· ++ scope.resolving) resolving')
  exact congrArg₂ (ContainerScope.mk scope.services) holdings stack

/-- A type under construction is in the way of itself. -/
theorem resolve_of_mem {scope : ContainerScope} (sound : scope.Sound) {type : ServiceType}
    (busy : type ∈ scope.resolving) (journal : Journal) :
    scope.resolve type journal = (.failed (Resolution.cycle type), scope, journal) := by
  obtain ⟨visits, resolves⟩ := resolve_resolves sound type journal
  have cyclic : Resolves scope.services scope.resolving type ⟨scope.holdings, journal⟩ _ _ _ :=
    .cyclic (sound.find?_of_busy busy) busy
  obtain ⟨answer, stocks, -⟩ := resolves.unique cyclic
  have resolving := resolve_resolving sound type journal
  rw [answer] at resolving
  refine Prod.ext answer (Prod.ext ?_ (congrArg Stock.journal stocks))
  exact congrArg₂ (ContainerScope.mk scope.services) (congrArg Stock.holdings stocks) resolving

namespace Life

/-! ## What stays under construction -/

/-- A constructor panics in the turn while the type is under construction. -/
def Interrupts (life : Life) (type : ServiceType) : Turn → Prop
  | .resolve root => ∃ last payload,
    (Machine.start life.scope root life.journal).Runs life.scope.services last ∧
      last.task = .panicking payload ∧ type ∈ last.frames.map Frame.type
  | .dispose | .others .. => False

/-- In one of the turns a constructor panics while the type is under construction. -/
def Poisons (life : Life) (turns : List Turn) (type : ServiceType) : Prop :=
  ∃ before turn after, turns = before ++ turn :: after ∧ (life.run before).Interrupts type turn

theorem poisons_cons_iff (life : Life) (turn : Turn) (turns : List Turn) (type : ServiceType) :
    life.Poisons (turn :: turns) type ↔
      life.Interrupts type turn ∨ (life.step turn).Poisons turns type := by
  constructor
  · rintro ⟨_ | ⟨first, before⟩, next, after, same, interrupts⟩
    · cases same
      exact .inl interrupts
    · cases same
      exact .inr ⟨before, next, after, rfl, interrupts⟩
  · rintro (interrupts | ⟨before, next, after, rfl, interrupts⟩)
    · exact ⟨[], turn, turns, rfl, interrupts⟩
    · exact ⟨turn :: before, next, after, rfl, interrupts⟩

/-- What a request of the owner leaves under construction. -/
theorem resolve_leaves {life : Life} (sound : life.scope.Sound) (root : ServiceType) :
    let resolved := life.scope.resolve root life.journal
    ∃ last, (Machine.start life.scope root life.journal).Ends life.scope.services last ∧
      last.Yields resolved.1 resolved.2.1 resolved.2.2 ∧
      (((∃ answer, last.task = .returning answer) ∧
          resolved.2.1.resolving = life.scope.resolving) ∨
        (∃ payload, last.task = .panicking payload) ∧
          resolved.2.1.resolving = last.frames.map Frame.type ++ life.scope.resolving) := by
  intro resolved
  obtain ⟨last, ends, yields⟩ := resolve_ends sound root life.journal
  have orderly := Machine.run_orderly (Machine.start_orderly sound root life.journal) ends.runs
  have stacked := yields.resolving.symm.trans orderly.stacked
  refine ⟨last, ends, yields, ?_⟩
  rcases Machine.eq_nil_of_stops ends.stops orderly with ⟨returns, none⟩ | panics
  · rw [none] at stacked
    exact .inl ⟨returns, stacked⟩
  · exact .inr ⟨panics, stacked⟩

theorem mem_resolving_step_iff {life : Life} (sound : life.scope.Sound) (turn : Turn)
    (type : ServiceType) :
    type ∈ (life.step turn).scope.resolving ↔
      type ∈ life.scope.resolving ∨ life.Interrupts type turn := by
  cases turn with
  | dispose | others serials lines reports => exact (or_iff_left id).symm
  | resolve root =>
    obtain ⟨last, ends, -, leaves⟩ := resolve_leaves sound root
    have unique : ∀ other payload,
        (Machine.start life.scope root life.journal).Runs life.scope.services other →
          other.task = .panicking payload → other = last := by
      intro other payload runs panics
      refine Machine.Ends.unique ⟨runs, ?_⟩ ends
      simp only [Machine.step, panics]
    show type ∈ (life.scope.resolve root life.journal).2.1.resolving ↔ _
    rcases leaves with ⟨⟨answer, returns⟩, same⟩ | ⟨⟨payload, panics⟩, more⟩
    · rw [same]
      refine (or_iff_left ?_).symm
      rintro ⟨other, payload, runs, panics, -⟩
      obtain rfl := unique other payload runs panics
      cases returns.symm.trans panics
    · rw [more, List.mem_append, or_comm]
      refine or_congr_right ⟨fun isFrame => ⟨last, payload, ends.runs, panics, isFrame⟩, ?_⟩
      rintro ⟨other, payload', runs, panics', isFrame⟩
      rwa [unique other payload' runs panics'] at isFrame

/-- What stays under construction was so before, or at a panic. -/
theorem mem_resolving_run_iff {life : Life} (sound : life.scope.Sound) (turns : List Turn)
    (type : ServiceType) :
    type ∈ (life.run turns).scope.resolving ↔
      type ∈ life.scope.resolving ∨ life.Poisons turns type := by
  induction turns generalizing life with
  | nil =>
    refine (or_iff_left ?_).symm
    rintro ⟨before, turn, after, same, -⟩
    simp at same
  | cons turn turns inductionHypothesis =>
    rw [poisons_cons_iff, ← or_assoc, ← mem_resolving_step_iff sound]
    exact inductionHypothesis (step_sound sound turn)

/-- Only registered types stay under construction. -/
theorem registered_of_mem_resolving {container : Container} {journal : Journal}
    {turns : List Turn} {type : ServiceType}
    (stuck : type ∈ ((opened container journal).run turns).scope.resolving) :
    findService? container.services type ≠ none := by
  have sound : (opened container journal).scope.Sound := ofContainer_sound container
  have poisons := ((mem_resolving_run_iff sound turns type).mp stuck).resolve_left
    List.not_mem_nil
  obtain ⟨before, turn, after, -, interrupts⟩ := poisons
  cases turn with
  | dispose | others serials lines reports => exact interrupts.elim
  | resolve root =>
    obtain ⟨last, payload, runs, -, isStarted⟩ := interrupts
    have orderly := Machine.run_orderly (Machine.start_orderly (run_sound sound before) root _) runs
    rw [run_services] at orderly
    obtain ⟨frame, isFrame, rfl⟩ := List.mem_map.mp isStarted
    obtain ⟨service, registered, -⟩ := orderly.placed frame isFrame
    exact Option.ne_none_iff_exists'.mpr ⟨service, registered⟩

end Life

/-- Whatever the owner of a scope has asked of it: a request that gets an answer, also one
that a constructor makes, leaves the types under construction as they were, and one that
panics leaves those of the constructors under way on top. So what stays under construction
is what was so at a panic. Such a type is never held, and from then on every request for it
fails. A type that reaches none of them is resolved as if there were none. -/
theorem panics_poison_exactly (container : Container) (journal : Journal) (turns : List Turn) :
    let services := container.services
    let life := (Life.opened container journal).run turns
    let stuck := life.scope.resolving
    (∀ root frames resolving stock type,
      (Machine.start life.scope root life.journal).Runs services
          ⟨frames, resolving, stock, .asking type⟩ →
        resolving = frames.map Frame.type ++ stuck ∧
        ((∃ answer rest, Machine.Runs services ⟨frames, resolving, stock, .asking type⟩
            ⟨frames, resolving, rest, .returning answer⟩) ∨
          ∃ payload inner rest, Machine.Runs services ⟨frames, resolving, stock, .asking type⟩
            ⟨inner ++ frames, inner.map Frame.type ++ resolving, rest, .panicking payload⟩)) ∧
    (∀ type,
      let resolved := life.scope.resolve type life.journal
      ∃ last, (Machine.start life.scope type life.journal).Ends services last ∧
        last.Yields resolved.1 resolved.2.1 resolved.2.2 ∧
        (((∃ answer, last.task = .returning answer) ∧ resolved.2.1.resolving = stuck) ∨
          (∃ payload, last.task = .panicking payload) ∧
            resolved.2.1.resolving = last.frames.map Frame.type ++ stuck)) ∧
    (∀ type, type ∈ stuck ↔ (Life.opened container journal).Poisons turns type) ∧
    (∀ type ∈ stuck, ∀ more,
      let later := life.run more
      later.scope.holdings.find? type = none ∧ type ∉ later.scope.holdings.created ∧
        later.scope.resolve type later.journal =
          (.failed (Resolution.cycle type), later.scope, later.journal)) ∧
    ∀ type, (∀ other ∈ stuck, ¬ ReflTransGen (AsksFor services) type other) →
      let alone := resolve { life.scope with resolving := [] } type life.journal
      life.scope.resolve type life.journal =
        (alone.1.above stuck, { alone.2.1 with resolving := alone.2.1.resolving ++ stuck },
          alone.2.2) := by
  intro services life stuck
  have opened : (Life.opened container journal).scope.Sound := ofContainer_sound container
  have sound : life.scope.Sound := Life.run_sound opened turns
  have registered : life.scope.services = services := Life.run_services _ turns
  rw [← registered]
  refine ⟨?_, fun type => Life.resolve_leaves sound type, ?_, ?_, ?_⟩
  · intro root frames resolving stock type runs
    have orderly := Machine.run_orderly (Machine.start_orderly sound root life.journal) runs
    exact ⟨orderly.stacked, orderly.settles⟩
  · intro type
    have none : type ∉ (Life.opened container journal).scope.resolving := List.not_mem_nil
    exact (Life.mem_resolving_run_iff opened turns type).trans (or_iff_right none)
  · intro type isStuck more later
    have laterSound : later.scope.Sound := Life.run_sound sound more
    have busy : type ∈ later.scope.resolving :=
      (Life.mem_resolving_run_iff sound more type).mpr (.inl isStuck)
    exact ⟨laterSound.find?_of_busy busy, laterSound.disjoint busy,
      resolve_of_mem laterSound busy later.journal⟩
  · intro type apart
    exact resolve_above sound apart life.journal

/-- A part whose constructor has panicked inside that of the whole. -/
theorem panics_poison_exactly_of_part :
    let part : Service := ⟨⟨"Part", "P"⟩, [.panic "boom"], .silent⟩
    let whole : Service := ⟨⟨"Whole", "W"⟩, [.tryGet part.type], .silent⟩
    let opened := Life.opened ⟨[part, whole]⟩ (.ofSerial 0)
    let later := opened.run [.resolve whole.type, .dispose]
    opened.Poisons [.resolve whole.type] part.type ∧
      later.scope.resolve part.type later.journal =
        (.failed (Resolution.cycle part.type), later.scope, later.journal) := by
  intro part whole opened later
  obtain ⟨-, -, exactly, stuck, -⟩ :=
    panics_poison_exactly ⟨[part, whole]⟩ (.ofSerial 0) [.resolve whole.type]
  have isStuck : part.type ∈ (opened.run [.resolve whole.type]).scope.resolving := by decide
  exact ⟨(exactly part.type).mp isStuck, (stuck part.type isStuck [.dispose]).2.2⟩

end ContainerScope

end WorkHost
