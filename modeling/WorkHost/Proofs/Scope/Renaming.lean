import WorkHost.Proofs.Scope.Lifetimes
import WorkHost.Proofs.Scope.Twins

/-!
Contract: serials only name instances.

Of two scopes with the same registrations one may take other serials than the other, since
serials are gone that others took. A renaming pairs the serials of the one with those of
the other. Whatever is asked of both of them, the same happens in both up to a renaming,
which grows with the instances that are constructed (`ContainerScope.Renamed.resolve`,
`ContainerScope.Renamed.dispose`).
-/

namespace WorkHost

/-- Which serials stand for each other. -/
structure Renaming where
  pairs : Nat → Nat → Prop
  oneToOne {serial serial' other other' : Nat} : pairs serial other → pairs serial' other' →
    (serial = serial' ↔ other = other')

namespace Renaming

/-- Nothing is paired yet. -/
def empty : Renaming := ⟨fun _ _ => False, nofun⟩

/-- What is paired stays paired. -/
def Grows (names more : Renaming) : Prop :=
  ∀ ⦃serial other : Nat⦄, names.pairs serial other → more.pairs serial other

/-- Only serials below the next ones are paired. -/
def Below (names : Renaming) (next next' : Nat) : Prop :=
  ∀ ⦃serial other : Nat⦄, names.pairs serial other → serial < next ∧ other < next'

/-- The next serials are paired as well. -/
def insert {names : Renaming} {next next' : Nat} (below : names.Below next next') :
    Renaming where
  pairs serial other := names.pairs serial other ∨ serial = next ∧ other = next'
  oneToOne := by
    rintro serial serial' other other' (old | ⟨rfl, rfl⟩) (old' | ⟨rfl, rfl⟩)
    · exact names.oneToOne old old'
    · have bounds := below old
      omega
    · have bounds := below old'
      omega
    · exact ⟨fun _ => rfl, fun _ => rfl⟩

variable {names more most : Renaming} {next next' : Nat}

theorem below_empty (next next' : Nat) : Renaming.empty.Below next next' :=
  fun _ _ paired => paired.elim

theorem Grows.refl (names : Renaming) : names.Grows names := fun _ _ paired => paired

theorem Grows.trans (grows : names.Grows more) (again : more.Grows most) :
    names.Grows most := fun _ _ paired => again (grows paired)

theorem grows_insert (below : names.Below next next') : names.Grows (insert below) :=
  fun _ _ paired => .inl paired

theorem below_insert (below : names.Below next next') :
    (insert below).Below (next + 1) (next' + 1) := by
  rintro serial other (old | ⟨rfl, rfl⟩)
  · have bounds := below old
    omega
  · omega

/-- Serials may be gone. -/
theorem Below.mono {later later' : Nat} (below : names.Below next next')
    (grows : next ≤ later) (grows' : next' ≤ later') : names.Below later later' := by
  intro serial other paired
  have bounds := below paired
  omega

end Renaming

/-! ## Data with serials -/

section Data

variable (names : Renaming)

/-- A dependency on what stands for the other instance. -/
def Renaming.dependencies (dependency other : ServiceType × Nat) : Prop :=
  dependency.1 = other.1 ∧ names.pairs dependency.2 other.2

structure Instance.Renamed (held other : Instance) : Prop where
  type : held.type = other.type
  serial : names.pairs held.serial other.serial
  dependencies : List.Forall₂ names.dependencies held.dependencies other.dependencies

inductive Occurrence.Renamed : Occurrence → Occurrence → Prop where
  | begun (service : Service) : Renamed (.begun service) (.begun service)
  | noted (line : String) : Renamed (.noted line) (.noted line)
  | built (service : Service) {held other : Instance} (same : held.Renamed names other) :
    Renamed (.built service held) (.built service other)
  | hooked (service : Service) {held other : Instance} (same : held.Renamed names other) :
    Renamed (.hooked service held) (.hooked service other)
  | dropped {held other : Instance} (same : held.Renamed names other) :
    Renamed (.dropped held) (.dropped other)

/-- An instance under the type for which it is held. -/
def Renaming.entries (entry other : ServiceType × Instance) : Prop :=
  entry.1 = other.1 ∧ entry.2.Renamed names other.2

structure Holdings.Renamed (holdings other : Holdings) : Prop where
  created : holdings.created = other.created
  instances : List.Forall₂ names.entries holdings.instances other.instances

structure Stock.Renamed (stock other : Stock) : Prop where
  holdings : stock.holdings.Renamed names other.holdings
  below : names.Below stock.journal.nextSerial other.journal.nextSerial

abbrev Resolution.Renamed : Resolution → Resolution → Prop :=
  Resolution.Alike (Instance.Renamed names)

inductive Construction.Renamed : Construction → Construction → Prop where
  | constructed {held other : Instance} (same : held.Renamed names other) :
    Renamed (.constructed held) (.constructed other)
  | failed (reason : String) : Renamed (.failed reason) (.failed reason)
  | panicked (payload : Payload) (stack : List ServiceType) :
    Renamed (.panicked payload stack) (.panicked payload stack)

end Data

section Growth

variable {names more : Renaming}

theorem Renaming.Grows.dependencies (grows : names.Grows more)
    {dependencies others : List (ServiceType × Nat)}
    (same : List.Forall₂ names.dependencies dependencies others) :
    List.Forall₂ more.dependencies dependencies others :=
  same.imp fun _ _ paired => ⟨paired.1, grows paired.2⟩

theorem Instance.Renamed.grow {held other : Instance} (same : held.Renamed names other)
    (grows : names.Grows more) : held.Renamed more other :=
  ⟨same.type, grows same.serial, grows.dependencies same.dependencies⟩

/-- A constructor obtains an instance in addition. -/
theorem Instance.Renamed.obtained {held other : Instance} (same : held.Renamed more other)
    (grows : names.Grows more) {dependencies others : List (ServiceType × Nat)}
    (drawn : List.Forall₂ names.dependencies dependencies others) (wanted : ServiceType) :
    List.Forall₂ more.dependencies (dependencies ++ [(wanted, held.serial)])
      (others ++ [(wanted, other.serial)]) :=
  List.rel_append (grows.dependencies drawn) (.cons ⟨rfl, same.serial⟩ .nil)

theorem Occurrence.Renamed.grow {occurrence other : Occurrence}
    (same : occurrence.Renamed names other) (grows : names.Grows more) :
    occurrence.Renamed more other := by
  cases same with
  | begun service => exact .begun service
  | noted line => exact .noted line
  | built service same => exact .built service (same.grow grows)
  | hooked service same => exact .hooked service (same.grow grows)
  | dropped same => exact .dropped (same.grow grows)

theorem Renaming.Grows.occurrences (grows : names.Grows more)
    {during during' : List Occurrence}
    (same : List.Forall₂ (Occurrence.Renamed names) during during') :
    List.Forall₂ (Occurrence.Renamed more) during during' :=
  same.imp fun _ _ same => same.grow grows

end Growth

namespace Holdings.Renamed

variable {names : Renaming} {holdings other : Holdings}

theorem empty : Holdings.empty.Renamed names .empty := ⟨rfl, .nil⟩

theorem find? (same : holdings.Renamed names other) (type : ServiceType) :
    Option.Rel (Instance.Renamed names) (holdings.find? type) (other.find? type) := by
  have entries := same.instances
  unfold Holdings.find?
  generalize holdings.instances = instances at entries ⊢
  generalize other.instances = others at entries ⊢
  induction entries with
  | nil => exact .none
  | @cons entry entry' instances others paired entries inductionHypothesis =>
    by_cases isType : entry.1 = type
    · have isType' : entry'.1 = type := paired.1 ▸ isType
      simpa [isType, isType'] using paired.2
    · have isOther : entry'.1 ≠ type := paired.1 ▸ isType
      simpa [isType, isOther] using inductionHypothesis

theorem add (same : holdings.Renamed names other) (type : ServiceType)
    {held held' : Instance} (paired : held.Renamed names held') :
    (holdings.add type held).Renamed names (other.add type held') :=
  ⟨congrArg (type :: ·) same.created, .cons ⟨rfl, paired⟩ same.instances⟩

theorem remove (same : holdings.Renamed names other) (type : ServiceType) :
    (holdings.remove type).Renamed names (other.remove type) := by
  refine ⟨same.created, ?_⟩
  have entries := same.instances
  unfold Holdings.remove
  generalize holdings.instances = instances at entries ⊢
  generalize other.instances = others at entries ⊢
  induction entries with
  | nil => exact .nil
  | @cons entry entry' instances others paired entries inductionHypothesis =>
    by_cases isType : entry.1 = type
    · have isType' : entry'.1 = type := paired.1 ▸ isType
      simpa [isType, isType'] using inductionHypothesis
    · have isOther : entry'.1 ≠ type := paired.1 ▸ isType
      simpa [isType, isOther] using And.intro paired (by simpa using inductionHypothesis)

end Holdings.Renamed

/-! ## Resolving -/

/-- Up to a renaming that is grown from this one, the accounts tell the same and leave the
same. -/
def Account.Renamed {α : Type} (outcomes : Renaming → α → α → Prop) (names : Renaming)
    (account other : Account α) : Prop :=
  ∃ more, names.Grows more ∧ outcomes more account.1 other.1 ∧
    account.2.1.Renamed more other.2.1 ∧
    List.Forall₂ (Occurrence.Renamed more) account.2.2 other.2.2

section Resolving

variable {names : Renaming} {stock other : Stock}

theorem Account.Renamed.after {α : Type} {outcomes : Renaming → α → α → Prop}
    {more : Renaming} {account account' : Account α} {earlier earlier' : List Occurrence}
    (same : account.Renamed outcomes more account') (grows : names.Grows more)
    (told : List.Forall₂ (Occurrence.Renamed more) earlier earlier') :
    (account.after earlier).Renamed outcomes names (account'.after earlier') := by
  obtain ⟨most, again, outcome, stocks, during⟩ := same
  exact ⟨most, grows.trans again, outcome, stocks,
    List.rel_append (again.occurrences told) during⟩

theorem recordSteps_renamed {get : ServiceType → Stock → Account Resolution}
    (getRenamed : ∀ (type : ServiceType) {names : Renaming} {stock other : Stock},
      stock.Renamed names other →
        (get type stock).Renamed Resolution.Renamed names (get type other))
    (type : ServiceType) (stack : List ServiceType) (steps : List BuildStep)
    {dependencies others : List (ServiceType × Nat)}
    (drawn : List.Forall₂ names.dependencies dependencies others)
    (same : stock.Renamed names other) :
    (recordSteps get type stack steps dependencies stock).Renamed Construction.Renamed names
      (recordSteps get type stack steps others other) := by
  induction steps generalizing names dependencies others stock other with
  | nil =>
    -- Only here serials are taken, and so only here the renaming grows.
    have grows := Renaming.grows_insert same.below
    have entries := same.holdings.instances.imp fun _ _ paired =>
      And.intro paired.1 (paired.2.grow grows)
    exact ⟨.insert same.below, grows,
      .constructed ⟨rfl, .inr ⟨rfl, rfl⟩, grows.dependencies drawn⟩,
      ⟨⟨same.holdings.created, entries⟩, Renaming.below_insert same.below⟩, .nil⟩
  | cons step steps inductionHypothesis =>
    cases step with
    | get wanted =>
      obtain ⟨more, grows, alike, left, during⟩ := getRenamed wanted same
      simp only [recordSteps]
      generalize get wanted stock = answer at alike left during ⊢
      generalize get wanted other = answer' at alike left during ⊢
      obtain ⟨resolution, stock, meanwhile⟩ := answer
      obtain ⟨resolution', other, meanwhile'⟩ := answer'
      cases alike with
      | resolved paired =>
        exact (inductionHypothesis (paired.obtained grows drawn wanted) left).after grows during
      | failed failure => exact ⟨more, grows, .failed _, left, during⟩
      | panicked payload stack => exact ⟨more, grows, .panicked payload stack, left, during⟩
    | tryGet wanted =>
      obtain ⟨more, grows, alike, left, during⟩ := getRenamed wanted same
      simp only [recordSteps]
      generalize get wanted stock = answer at alike left during ⊢
      generalize get wanted other = answer' at alike left during ⊢
      obtain ⟨resolution, stock, meanwhile⟩ := answer
      obtain ⟨resolution', other, meanwhile'⟩ := answer'
      cases alike with
      | resolved paired =>
        exact (inductionHypothesis (paired.obtained grows drawn wanted) left).after grows during
      | failed failure =>
        let line := type.label ++ " swallowed: " ++ failure.message
        have written : (stock.write line).Renamed more (other.write line) :=
          ⟨left.holdings, left.below⟩
        exact (inductionHypothesis (grows.dependencies drawn) written).after grows
          (List.rel_append during (.cons (.noted line) .nil))
      | panicked payload stack => exact ⟨more, grows, .panicked payload stack, left, during⟩
    | fail root contexts => exact ⟨names, .refl names, .failed _, same, .nil⟩
    | panic message => exact ⟨names, .refl names, .panicked _ stack, same, .nil⟩
    | log text =>
      let line := type.label ++ ": " ++ text
      have written : (stock.write line).Renamed names (other.write line) :=
        ⟨same.holdings, same.below⟩
      exact (inductionHypothesis drawn written).after (.refl names)
        (.cons (.noted line) .nil)

theorem recordBy_renamed {construct : Service → Stock → Account Construction}
    (constructRenamed : ∀ (service : Service) {names : Renaming} {stock other : Stock},
      stock.Renamed names other →
        (construct service stock).Renamed Construction.Renamed names
          (construct service other))
    (services : List Service) (stack : List ServiceType) (type : ServiceType)
    (same : stock.Renamed names other) :
    (recordBy services construct stack type stock).Renamed Resolution.Renamed names
      (recordBy services construct stack type other) := by
  have found := same.holdings.find? type
  unfold recordBy
  generalize stock.holdings.find? type = held at found ⊢
  generalize other.holdings.find? type = held' at found ⊢
  cases found with
  | some paired => exact ⟨names, .refl names, .resolved paired, same, .nil⟩
  | none =>
    by_cases cyclic : stack.contains type
    · simp only [cyclic, if_true]
      exact ⟨names, .refl names, .failed _, same, .nil⟩
    · cases findService? services type with
      | none =>
        simp only [cyclic, Bool.false_eq_true, if_false]
        exact ⟨names, .refl names, .failed _, same, .nil⟩
      | some service =>
        obtain ⟨more, grows, alike, left, during⟩ := constructRenamed service same
        simp only [cyclic, Bool.false_eq_true, if_false]
        generalize construct service stock = answer at alike left during ⊢
        generalize construct service other = answer' at alike left during ⊢
        obtain ⟨construction, stock, meanwhile⟩ := answer
        obtain ⟨construction', other, meanwhile'⟩ := answer'
        cases alike with
        | constructed paired =>
          exact ⟨more, grows, .resolved paired, ⟨left.holdings.add type paired, left.below⟩,
            .cons (.begun service)
              (List.rel_append during (.cons (.built service paired) .nil))⟩
        | failed reason => exact ⟨more, grows, .failed _, left, .cons (.begun service) during⟩
        | panicked payload stack =>
          exact ⟨more, grows, .panicked payload stack, left, .cons (.begun service) during⟩

theorem recordWithin_renamed (services : List Service) (room : Nat) (stack : List ServiceType)
    (type : ServiceType) (same : stock.Renamed names other) :
    (recordWithin services room stack type stock).Renamed Resolution.Renamed names
      (recordWithin services room stack type other) := by
  induction room generalizing names stack type stock other with
  | zero =>
    refine recordBy_renamed ?_ services stack type same
    intro service names stock other same
    exact ⟨names, .refl names, .failed _, same, .nil⟩
  | succ room inductionHypothesis =>
    refine recordBy_renamed ?_ services stack type same
    intro service names stock other same
    refine recordSteps_renamed ?_ type (type :: stack) service.steps .nil same
    intro wanted names stock other same
    obtain ⟨more, grows, alike, left, during⟩ := inductionHypothesis (type :: stack) wanted same
    exact ⟨more, grows, alike.ofType Instance.Renamed.type wanted, left, during⟩

end Resolving

/-! ## Disposal -/

theorem Occurrence.ending_renamed {names : Renaming} (services : List Service)
    (type : ServiceType) {held other : Instance} (same : held.Renamed names other) :
    (Occurrence.ending services type held).Renamed names (.ending services type other) := by
  unfold Occurrence.ending
  split
  · split
    · exact .dropped same
    · exact .hooked _ same
  · exact .dropped same

namespace ContainerScope

/-- A hook panicked for instances that stand for each other. -/
inductive PanicRenamed (names : Renaming) : Payload → Payload → Prop where
  | hook {held other : Instance} (same : held.Renamed names other) :
    PanicRenamed names (hookPanic held) (hookPanic other)

theorem runHook_renamed {names : Renaming} (services : List Service) (type : ServiceType)
    {held other : Instance} (same : held.Renamed names other) (journal journal' : Journal) :
    Option.Rel (PanicRenamed names) (runHook services held type journal).1
      (runHook services other type journal').1 := by
  unfold runHook
  cases (findService? services type).map Service.disposal with
  | none => exact .none
  | some disposal =>
    cases disposal with
    | silent | logged => exact .none
    | panicking => exact .some (.hook same)

theorem recordDisposal_renamed {names : Renaming} (services : List Service)
    (created : List ServiceType) {instances others : List (ServiceType × Instance)}
    (entries : List.Forall₂ names.entries instances others) (journal journal' : Journal) :
    let account := recordDisposal services created instances journal
    let other := recordDisposal services created others journal'
    Option.Rel (PanicRenamed names) account.1 other.1 ∧
      account.2.1.Renamed names other.2.1 ∧
      List.Forall₂ (Occurrence.Renamed names) account.2.2.2 other.2.2.2 := by
  induction created generalizing instances others journal journal' with
  | nil => exact ⟨.none, .empty, .nil⟩
  | cons type created inductionHypothesis =>
    have same : Holdings.Renamed names ⟨instances, created⟩ ⟨others, created⟩ := ⟨rfl, entries⟩
    have found := same.find? type
    simp only [recordDisposal]
    generalize Holdings.find? ⟨instances, created⟩ type = held at found ⊢
    generalize Holdings.find? ⟨others, created⟩ type = held' at found ⊢
    cases found with
    | none => exact inductionHypothesis entries journal journal'
    | @some held held' paired =>
      have ran := runHook_renamed services type paired journal journal'
      have removed := same.remove type
      have ends := Occurrence.ending_renamed services type paired
      dsimp only
      generalize runHook services held type journal = answer at ran ⊢
      generalize runHook services held' type journal' = answer' at ran ⊢
      obtain ⟨panic, journal⟩ := answer
      obtain ⟨panic', journal'⟩ := answer'
      cases ran with
      | some panics => exact ⟨.some panics, removed, .cons ends .nil⟩
      | none =>
        obtain ⟨panics, left, later⟩ := inductionHypothesis removed.instances journal journal'
        exact ⟨panics, left, .cons ends later⟩

/-! ## Scopes -/

structure Renamed (names : Renaming) (scope other : ContainerScope) : Prop where
  services : scope.services = other.services
  holdings : scope.holdings.Renamed names other.holdings
  resolving : scope.resolving = other.resolving

theorem ofContainer_renamed (names : Renaming) (container : Container) :
    (ofContainer container).Renamed names (ofContainer container) := ⟨rfl, .empty, rfl⟩

variable {names : Renaming} {scope other : ContainerScope}

theorem Renamed.resolve (same : scope.Renamed names other) (type : ServiceType)
    {journal journal' : Journal}
    (below : names.Below journal.nextSerial journal'.nextSerial) :
    let answer := scope.resolve type journal
    let answer' := other.resolve type journal'
    ∃ more, names.Grows more ∧ Resolution.Renamed more answer.1 answer'.1 ∧
      answer.2.1.Renamed more answer'.2.1 ∧
      more.Below answer.2.2.nextSerial answer'.2.2.nextSerial ∧
      List.Forall₂ (Occurrence.Renamed more) (Life.occurrences ⟨scope, journal⟩ (.resolve type))
        (Life.occurrences ⟨other, journal'⟩ (.resolve type)) := by
  obtain ⟨services, holdings, resolving⟩ := scope
  obtain ⟨_, others, _⟩ := other
  obtain ⟨rfl, held, rfl⟩ := same
  have stocks : Stock.Renamed names ⟨holdings, journal⟩ ⟨others, journal'⟩ := ⟨held, below⟩
  obtain ⟨more, grows, alike, left, during⟩ :=
    recordWithin_renamed services services.length resolving type stocks
  have erased := erase_recordWithin services services.length resolving type
  simp only [ContainerScope.resolve, ContainerScope.resolveAny, ← erased]
  exact ⟨more, grows, alike.ofType Instance.Renamed.type type,
    ⟨rfl, left.holdings, alike.underConstruction resolving⟩, left.below, during⟩

theorem Renamed.dispose (same : scope.Renamed names other) (journal journal' : Journal) :
    let answer := scope.dispose journal
    let answer' := other.dispose journal'
    Option.Rel (PanicRenamed names) answer.1 answer'.1 ∧
      answer.2.1.Renamed names answer'.2.1 ∧
      List.Forall₂ (Occurrence.Renamed names) (Life.occurrences ⟨scope, journal⟩ .dispose)
        (Life.occurrences ⟨other, journal'⟩ .dispose) := by
  obtain ⟨services, ⟨instances, created⟩, resolving⟩ := scope
  obtain ⟨_, ⟨others, _⟩, _⟩ := other
  obtain ⟨rfl, ⟨rfl, entries⟩, rfl⟩ := same
  obtain ⟨panics, left, during⟩ :=
    recordDisposal_renamed services created entries journal journal'
  have erased := erase_recordDisposal services created
  simp only [ContainerScope.dispose, ← erased]
  exact ⟨panics, ⟨rfl, left, rfl⟩, during⟩

end ContainerScope

end WorkHost
