import WorkHost.Proofs.Scope.Renaming
import WorkHost.Scope.Workspace

/-!
Contract: what the owner of a scope asks of it, and what it says.

A request is handled by the slot of the scope alone, with the serials that come next
(`Workspace.perform_on`). Two slots whose scopes differ in their serials only handle it
alike, up to a renaming (`ScopeSlot.Renamed.handle`). The serials in a slot were there
before or have been taken just now (`ScopeSlot.handle_serials`).
-/

namespace WorkHost

inductive SlotRequest where
  | resolve (type : ServiceType)
  | close
  | drop
  | disposeBare
deriving DecidableEq, Repr

/-- The request, for the scope of that number. -/
def SlotRequest.on (number : Nat) : SlotRequest → WorkspaceOp
  | .resolve type => .resolve number type
  | .close => .close number
  | .drop => .drop number
  | .disposeBare => .disposeBare number

/-- An operation that is a request, with the number of the scope. -/
def WorkspaceOp.request? : WorkspaceOp → Option (Nat × SlotRequest)
  | .resolve scope type => some (scope, .resolve type)
  | .close scope => some (scope, .close)
  | .drop scope => some (scope, .drop)
  | .disposeBare scope => some (scope, .disposeBare)
  | _ => none

theorem WorkspaceOp.request?_eq_some {op : WorkspaceOp} {number : Nat} {request : SlotRequest} :
    op.request? = some (number, request) ↔ op = request.on number := by
  constructor
  · intro asks
    cases op <;> cases asks <;> rfl
  · rintro rfl
    cases request <;> rfl

namespace ScopeSlot

open Workspace (resolutionAnswer afterDisposal)

def handle (slot : ScopeSlot) (request : SlotRequest) (journal : Journal) :
    WorkspaceAnswer × ScopeSlot × Journal :=
  match request, slot with
  | .resolve type, .guarded guard =>
    let (resolution, guard, journal) := guard.resolve type journal
    (resolutionAnswer resolution, .guarded guard, journal)
  | .resolve type, .bare scope =>
    let (resolution, scope, journal) := scope.resolve type journal
    (resolutionAnswer resolution, .bare scope, journal)
  | .close, .guarded guard =>
    let (panic, journal) := guard.drop journal
    (afterDisposal panic .closed, .gone, journal)
  | .drop, .guarded guard =>
    let (panic, journal) := guard.drop journal
    (afterDisposal panic .dropped, .gone, journal)
  | .disposeBare, .bare scope =>
    let (panic, scope, journal) := scope.dispose journal
    (afterDisposal panic .disposed, .bare scope, journal)
  | .resolve _, .gone | .close, _ => (.gone, .gone, journal)
  | .drop, _ => (.dropped, .gone, journal)
  | .disposeBare, slot => (.disposed, slot, journal)

/-- What happens in the scope of the slot. -/
def occurrences (slot : ScopeSlot) (request : SlotRequest) (journal : Journal) :
    List Occurrence :=
  match request, slot with
  | .resolve type, .guarded ⟨some (.container scope)⟩ | .resolve type, .bare scope =>
    ContainerScope.Life.occurrences ⟨scope, journal⟩ (.resolve type)
  | .close, .guarded ⟨some (.container scope)⟩ | .drop, .guarded ⟨some (.container scope)⟩
  | .disposeBare, .bare scope => ContainerScope.Life.occurrences ⟨scope, journal⟩ .dispose
  | .close, .guarded ⟨some (.provided _ serial)⟩
  | .drop, .guarded ⟨some (.provided _ serial)⟩ => [.noted ("dispose scope " ++ toString serial)]
  | _, _ => []

end ScopeSlot

namespace Workspace

variable {workspace : Workspace} {number : Nat}

@[simp] theorem keep_journal (workspace : Workspace) :
    workspace.keep workspace.journal = workspace := rfl

theorem setSlot_self {slot : ScopeSlot} (found : workspace.slots[number]? = some slot) :
    workspace.setSlot number slot = workspace := by
  obtain ⟨inside, rfl⟩ := List.getElem?_eq_some_iff.mp found
  rw [setSlot, List.set_getElem_self]

/-- A request concerns the slot of its number and the next serial. -/
theorem perform_on {slot : ScopeSlot} (found : workspace.slots[number]? = some slot)
    (request : SlotRequest) :
    workspace.perform (request.on number) =
      let (answer, slot, journal) := slot.handle request workspace.journal
      (answer, journal.lines, (workspace.keep journal).setSlot number slot) := by
  have unchanged := setSlot_self found
  cases request <;> cases slot <;>
    simp only [SlotRequest.on, perform, release, ScopeSlot.handle, found, unchanged,
      keep_journal] <;> rfl

theorem perform_on_absent (absent : workspace.slots[number]? = none) (request : SlotRequest) :
    workspace.perform (request.on number) = (workspace.noScope number, [], workspace) := by
  cases request <;> simp only [SlotRequest.on, perform, release, absent]

end Workspace

namespace ScopeSlot

theorem handle_lines (slot : ScopeSlot) (request : SlotRequest) (journal : Journal) :
    (slot.handle request journal).2.2.lines =
      journal.lines ++ (slot.occurrences request journal).flatMap Occurrence.lines := by
  have resolves (scope : ContainerScope) (type : ServiceType) :
      (scope.resolve type journal).2.2.lines = journal.lines ++
        (ContainerScope.Life.occurrences ⟨scope, journal⟩ (.resolve type)).flatMap
          Occurrence.lines :=
    (ContainerScope.Life.resolve_recounts ⟨scope, journal⟩ type).lines
  have disposes (scope : ContainerScope) :
      (scope.dispose journal).2.2.lines = journal.lines ++
        (ContainerScope.Life.occurrences ⟨scope, journal⟩ .dispose).flatMap
          Occurrence.lines :=
    (ContainerScope.Life.dispose_journal ⟨scope, journal⟩).2
  have nothing : journal.lines = journal.lines ++ [].flatMap Occurrence.lines := by simp
  cases slot with
  | gone => cases request <;> exact nothing
  | bare scope =>
    cases request with
    | resolve type => exact resolves scope type
    | disposeBare => exact disposes scope
    | close | drop => exact nothing
  | guarded guard =>
    obtain ⟨_ | scope | ⟨mode, serial⟩⟩ := guard
    · cases request <;> exact nothing
    · cases request with
      | resolve type => exact resolves scope type
      | close | drop => exact disposes scope
      | disposeBare => exact nothing
    · cases request with
      | resolve type => exact nothing
      | close | drop => rfl
      | disposeBare => exact nothing

end ScopeSlot

/-! ## Slots that differ in their serials only -/

/-- The answers say the same. -/
inductive WorkspaceAnswer.Renamed (names : Renaming) :
    WorkspaceAnswer → WorkspaceAnswer → Prop where
  | closed : Renamed names .closed .closed
  | gone : Renamed names .gone .gone
  | dropped : Renamed names .dropped .dropped
  | disposed : Renamed names .disposed .disposed
  | resolution {resolution other : Resolution} (same : resolution.Renamed names other) :
    Renamed names (Workspace.resolutionAnswer resolution) (Workspace.resolutionAnswer other)
  | panicked {payload payload' : Payload}
    (same : ContainerScope.PanicRenamed names payload payload') :
    Renamed names (.panicked payload.message) (.panicked payload'.message)

inductive ScopeSlot.Renamed (names : Renaming) : ScopeSlot → ScopeSlot → Prop where
  | guarded {scope other : ContainerScope} (same : scope.Renamed names other) :
    Renamed names (.guarded (.ofScope (.container scope))) (.guarded (.ofScope (.container other)))
  | bare {scope other : ContainerScope} (same : scope.Renamed names other) :
    Renamed names (.bare scope) (.bare other)
  | gone : Renamed names .gone .gone

section Handling

variable {names more : Renaming} {slot other : ScopeSlot}

theorem WorkspaceAnswer.Renamed.grow {answer answer' : WorkspaceAnswer}
    (same : answer.Renamed names answer') (grows : names.Grows more) :
    answer.Renamed more answer' := by
  cases same with
  | closed => exact .closed
  | gone => exact .gone
  | dropped => exact .dropped
  | disposed => exact .disposed
  | resolution same =>
    cases same with
    | resolved same => exact .resolution (.resolved (same.grow grows))
    | failed failure => exact .resolution (.failed failure)
    | panicked payload stack => exact .resolution (.panicked payload stack)
  | panicked same =>
    obtain ⟨same⟩ := same
    exact .panicked (.hook (same.grow grows))

theorem afterDisposal_renamed {panic panic' : Option Payload} {answer : WorkspaceAnswer}
    (panics : Option.Rel (ContainerScope.PanicRenamed names) panic panic')
    (same : answer.Renamed names answer) :
    (Workspace.afterDisposal panic answer).Renamed names
      (Workspace.afterDisposal panic' answer) := by
  cases panics with
  | none => exact same
  | some panics => exact .panicked panics

/-- The slots handle a request alike, up to a renaming that is grown from the given one. -/
theorem ScopeSlot.Renamed.handle (same : slot.Renamed names other) (request : SlotRequest)
    {journal journal' : Journal}
    (below : names.Below journal.nextSerial journal'.nextSerial) :
    let handled := slot.handle request journal
    let handled' := other.handle request journal'
    ∃ more, names.Grows more ∧ handled.1.Renamed more handled'.1 ∧
      handled.2.1.Renamed more handled'.2.1 ∧
      more.Below handled.2.2.nextSerial handled'.2.2.nextSerial ∧
      List.Forall₂ (Occurrence.Renamed more) (slot.occurrences request journal)
        (other.occurrences request journal') := by
  have disposes {scope other : ContainerScope} (same : scope.Renamed names other)
      {answer : WorkspaceAnswer} (plain : answer.Renamed names answer) :
      (Workspace.afterDisposal (scope.dispose journal).1 answer).Renamed names
          (Workspace.afterDisposal (other.dispose journal').1 answer) ∧
        names.Below (scope.dispose journal).2.2.nextSerial
          (other.dispose journal').2.2.nextSerial := by
    have serials := (ContainerScope.Life.dispose_journal ⟨scope, journal⟩).1
    have serials' := (ContainerScope.Life.dispose_journal ⟨other, journal'⟩).1
    refine ⟨afterDisposal_renamed (same.dispose journal journal').1 plain, ?_⟩
    exact below.mono (Nat.le_of_eq serials.symm) (Nat.le_of_eq serials'.symm)
  have grows := Renaming.Grows.refl names
  cases same with
  | gone =>
    cases request with
    | resolve type => exact ⟨names, grows, .gone, .gone, below, .nil⟩
    | close => exact ⟨names, grows, .gone, .gone, below, .nil⟩
    | drop => exact ⟨names, grows, .dropped, .gone, below, .nil⟩
    | disposeBare => exact ⟨names, grows, .disposed, .gone, below, .nil⟩
  | bare same =>
    cases request with
    | resolve type =>
      obtain ⟨more, grows, answers, left, later, during⟩ := same.resolve type below
      exact ⟨more, grows, .resolution answers, .bare left, later, during⟩
    | disposeBare =>
      obtain ⟨-, left, during⟩ := same.dispose journal journal'
      obtain ⟨answers, later⟩ := disposes same .disposed
      exact ⟨names, grows, answers, .bare left, later, during⟩
    | close => exact ⟨names, grows, .gone, .gone, below, .nil⟩
    | drop => exact ⟨names, grows, .dropped, .gone, below, .nil⟩
  | guarded same =>
    cases request with
    | resolve type =>
      obtain ⟨more, grows, answers, left, later, during⟩ := same.resolve type below
      exact ⟨more, grows, .resolution answers, .guarded left, later, during⟩
    | close =>
      obtain ⟨answers, later⟩ := disposes same .closed
      exact ⟨names, grows, answers, .gone, later, (same.dispose journal journal').2.2⟩
    | drop =>
      obtain ⟨answers, later⟩ := disposes same .dropped
      exact ⟨names, grows, answers, .gone, later, (same.dispose journal journal').2.2⟩
    | disposeBare => exact ⟨names, grows, .disposed, .guarded same, below, .nil⟩

end Handling

/-! ## Serials in a slot -/

namespace ContainerScope

theorem disposeNewest_subset (services : List Service) (created : List ServiceType)
    (instances : List (ServiceType × Instance)) (journal : Journal) :
    (disposeNewest services created instances journal).2.1.instances ⊆ instances := by
  induction created generalizing instances journal with
  | nil => exact List.nil_subset _
  | cons type created inductionHypothesis =>
    have fewer : (Holdings.remove ⟨instances, created⟩ type).instances ⊆ instances :=
      List.filter_subset_self _
    simp only [disposeNewest]
    split
    · exact inductionHypothesis instances journal
    · split
      · exact fewer
      · exact List.Subset.trans (inductionHypothesis _ _) fewer

theorem dispose_live_subset (scope : ContainerScope) (journal : Journal) :
    (scope.dispose journal).2.1.holdings.live ⊆ scope.holdings.live :=
  List.map_subset _ (disposeNewest_subset _ _ _ _)

/-- What is live after a resolution was live before or took a serial just now; what is given
is live. -/
theorem resolve_live (scope : ContainerScope) (type : ServiceType) (journal : Journal) :
    let answer := scope.resolve type journal
    journal.nextSerial ≤ answer.2.2.nextSerial ∧
      (∀ held ∈ answer.2.1.holdings.live, held ∈ scope.holdings.live ∨
        journal.nextSerial ≤ held.serial ∧ held.serial < answer.2.2.nextSerial) ∧
      ∀ held, answer.1 = .resolved held → held ∈ answer.2.1.holdings.live := by
  have recounts := Life.resolve_recounts ⟨scope, journal⟩ type
  refine ⟨?_, ?_, ?_⟩
  · exact Nat.le.intro recounts.serials.symm
  · intro held isLive
    have builtOrOld := recounts.live ▸ isLive
    rcases List.mem_append.mp builtOrOld with isNew | isOld
    · exact .inr (recounts.fresh (List.mem_reverse.mp isNew))
    · exact .inl isOld
  · intro held resolves
    have erased := erase_recordWithin scope.services scope.services.length scope.resolving type
      ⟨scope.holdings, journal⟩
    simp only [resolve, resolveAny, ← erased] at resolves ⊢
    exact (recordWithin_recounts scope.services scope.services.length scope.resolving type
      ⟨scope.holdings, journal⟩).live (Resolution.ofType_eq_resolved resolves).1

end ContainerScope

/-- The instance that an answer gives. -/
def WorkspaceAnswer.held? : WorkspaceAnswer → Option Instance
  | .held value => some value
  | _ => none

namespace ScopeSlot

/-- The serials of the instances that the slot can still give. -/
def serials : ScopeSlot → List Nat
  | .guarded ⟨some (.container scope)⟩ | .bare scope => scope.holdings.live.map Instance.serial
  | .guarded ⟨some (.provided _ serial)⟩ => [serial]
  | _ => []

/-- The serials in the slot that is left were there before or have just been taken; an
instance that is given has one of them. -/
structure Keeps (slot : ScopeSlot) (next : Nat) (answer : WorkspaceAnswer) (left : ScopeSlot)
    (later : Nat) : Prop where
  grows : next ≤ later
  known {serial : Nat} : serial ∈ left.serials →
    serial ∈ slot.serials ∨ next ≤ serial ∧ serial < later
  given {held : Instance} : answer.held? = some held → held.serial ∈ left.serials

theorem Keeps.of_subset {slot left : ScopeSlot} {answer : WorkspaceAnswer}
    (fewer : left.serials ⊆ slot.serials) (plain : answer.held? = none) (next : Nat) :
    slot.Keeps next answer left next where
  grows := Nat.le_refl _
  known isSerial := .inl (fewer isSerial)
  given gives := by
    rw [plain] at gives
    cases gives

theorem Keeps.of_dispose {slot left : ScopeSlot} {answer : WorkspaceAnswer}
    (fewer : left.serials ⊆ slot.serials) (plain : answer.held? = none)
    (scope : ContainerScope) (journal : Journal) :
    slot.Keeps journal.nextSerial (Workspace.afterDisposal (scope.dispose journal).1 answer) left
      (scope.dispose journal).2.2.nextSerial := by
  rw [(ContainerScope.Life.dispose_journal ⟨scope, journal⟩).1]
  apply Keeps.of_subset fewer
  cases (scope.dispose journal).1 with
  | none => exact plain
  | some payload => rfl

/-- `slot` has a container's scope, and `shape` makes such a slot of a scope. -/
theorem Keeps.of_resolve (shape : ContainerScope → ScopeSlot)
    (serials : ∀ scope, (shape scope).serials = scope.holdings.live.map Instance.serial)
    (scope : ContainerScope) (type : ServiceType) (journal : Journal) :
    let answer := scope.resolve type journal
    (shape scope).Keeps journal.nextSerial (Workspace.resolutionAnswer answer.1)
      (shape answer.2.1) answer.2.2.nextSerial := by
  obtain ⟨grows, known, given⟩ := scope.resolve_live type journal
  refine ⟨grows, ?_, ?_⟩
  · intro serial isSerial
    rw [serials] at isSerial ⊢
    obtain ⟨held, isLive, rfl⟩ := List.mem_map.mp isSerial
    exact (known held isLive).imp_left (List.mem_map_of_mem ·)
  · intro held gives
    rw [serials]
    apply List.mem_map_of_mem
    apply given
    generalize (scope.resolve type journal).1 = resolution at gives
    cases resolution <;> cases gives
    rfl

/-- A provided scope gives its own serial with every instance. -/
theorem provided_keeps (mode : ProviderMode) (serial : Nat) (type : ServiceType)
    (journal : Journal) :
    let slot := ScopeSlot.guarded ⟨some (.provided mode serial)⟩
    let handled := slot.handle (.resolve type) journal
    slot.Keeps journal.nextSerial handled.1 handled.2.1 handled.2.2.nextSerial := by
  refine ⟨Nat.le_refl _, .inl, ?_⟩
  intro held gives
  have own : held.serial = serial := by
    cases mode with
    | mistaken =>
      simp only [handle, ScopeGuard.resolve, ServiceScope.resolveAny, OpenScope.resolveAny,
        Resolution.ofType] at gives
      split at gives <;> cases gives
      rfl
    | single only =>
      by_cases isType : only = type
      · simp only [handle, ScopeGuard.resolve, ServiceScope.resolveAny, OpenScope.resolveAny,
          isType, if_true, Resolution.ofType] at gives
        cases gives
        rfl
      · simp only [handle, ScopeGuard.resolve, ServiceScope.resolveAny, OpenScope.resolveAny,
          isType, if_false] at gives
        cases gives
    | unavailable | exploding | barren => cases gives
  exact List.mem_singleton.mpr own

theorem handle_keeps (slot : ScopeSlot) (request : SlotRequest) (journal : Journal) :
    let handled := slot.handle request journal
    slot.Keeps journal.nextSerial handled.1 handled.2.1 handled.2.2.nextSerial := by
  cases slot with
  | gone => cases request <;> exact .of_subset (List.Subset.refl _) rfl _
  | bare scope =>
    cases request with
    | resolve type => exact .of_resolve .bare (fun _ => rfl) scope type journal
    | close | drop => exact .of_subset (List.nil_subset _) rfl _
    | disposeBare =>
      have fewer : (bare (scope.dispose journal).2.1).serials ⊆ (bare scope).serials :=
        List.map_subset _ (scope.dispose_live_subset journal)
      exact .of_dispose fewer rfl scope journal
  | guarded guard =>
    obtain ⟨_ | scope | ⟨mode, serial⟩⟩ := guard
    · cases request <;> exact .of_subset (List.nil_subset _) rfl _
    · cases request with
      | resolve type =>
        exact .of_resolve (fun scope => .guarded (.ofScope (.container scope)))
          (fun _ => rfl) scope type journal
      | close | drop => exact .of_dispose (List.nil_subset _) rfl scope journal
      | disposeBare => exact .of_subset (List.Subset.refl _) rfl _
    · cases request with
      | resolve type => exact provided_keeps mode serial type journal
      | close | drop => exact .of_subset (List.nil_subset _) rfl _
      | disposeBare => exact .of_subset (List.Subset.refl _) rfl _

end ScopeSlot

end WorkHost
