import WorkHost.Proofs.Scope.Lifetimes
import WorkHost.Proofs.Work.Outcome

/-!
Contract: which panics of an item end the process, and what follows from the others.

An item can panic in a constructor or in its action, in the destructor of what its action
has captured, and in a hook of its scope. The destructors run while the panic before them
is under way, so that any two of these end the process (`crashes_iff_two_panic`). Whatever
else happens, there is one result, and the worker reports it and goes on
(`Worker.goes_on_after`).
-/

namespace WorkHost

/-! ## Hooks -/

namespace ContainerScope

theorem Disposes.isSome_payload_iff {services : List Service} {live left : List Instance}
    {payload : Option Payload} {during : List Occurrence}
    (disposes : Disposes services live payload during left) :
    payload.isSome = true ↔ ∃ held ∈ live, HookPanics services held := by
  induction disposes with
  | finished => simp
  | interrupted panics => exact iff_of_true rfl ⟨_, List.mem_cons_self, panics⟩
  | continued calm disposes inductionHypothesis =>
    rw [inductionHypothesis, List.exists_mem_cons_iff]
    exact (or_iff_right calm).symm

/-- Disposing a scope panics if a hook of one of its instances does. -/
theorem isSome_dispose_iff {scope : ContainerScope} (sound : scope.Sound) (journal : Journal) :
    (scope.dispose journal).1.isSome = true ↔
      ∃ held ∈ scope.holdings.live, HookPanics scope.services held :=
  Disposes.isSome_payload_iff (@Life.dispose_disposes ⟨scope, journal⟩ sound)

end ContainerScope

/-! ## Two panics -/

theorem Conclusion.eq_crashed_iff (conclusion : Conclusion) :
    conclusion = .crashed ↔ ExecutionResult.ofConclusion? conclusion = none := by
  cases conclusion <;> simp [ExecutionResult.ofConclusion?]

theorem Ending.isSome_panic?_iff (ending : Ending) :
    ending.panic?.isSome = true ↔ ∃ payload, ending = .panicked payload := by
  cases ending <;> simp [Ending.panic?]

/-- Of three possible panics there are two. -/
theorem two_le_length_iff {α : Type} (first second third : Option α) :
    2 ≤ (first.toList ++ second.toList ++ third.toList).length ↔
      first.isSome = true ∧ third.isSome = true ∨ first.isSome = true ∧ second.isSome = true ∨
        second.isSome = true ∧ third.isSome = true := by
  cases first <;> cases second <;> cases third <;> simp

namespace Item

section

variable {σ τ : Type} [ServiceScope σ τ] [Logbook τ]

theorem isSome_drop_iff (item : Item) (state : τ) :
    (item.drop state).1.isSome = true ↔ item.keepsake = .panicking := by
  unfold drop
  cases item.keepsake <;> simp

theorem execute_eq_crashed_iff (item : Item) (create : τ → Opening σ × τ) (action : Action τ)
    (state : τ) :
    (item.execute create action state).1 = .crashed ↔
      2 ≤ ((item.due create action state).panics item).length := by
  rw [Conclusion.eq_crashed_iff, item.report_eq]
  dsimp only
  split
  · rename_i once
    exact iff_of_false nofun (by omega)
  · rename_i twice
    exact iff_of_true rfl (by omega)

end

/-- The action is due what the resolution of its service leaves it. -/
theorem respond_eq_panicked_iff {τ : Type} (item : Item) (action : Action τ)
    (resolution : Resolution) (state : τ) :
    (∃ payload, (item.respond action resolution state).1 = .panicked payload) ↔
      (∃ payload stack, resolution = .panicked payload stack) ∨
        ∃ held payload, resolution = .resolved held ∧
          (item.call action (some held) state).1 = .panicked payload := by
  cases resolution <;> simp [respond]

/-- What an item is due that gets its service from a container. -/
theorem due_of_container (container : Container) {item : Item} {type : ServiceType}
    (asks : item.dependency = some type) (action : Action Journal) (journal : Journal) :
    item.due (ScopeFactory.container container).create action journal =
      let resolved := (ContainerScope.ofContainer container).resolve type
        (journal.report ContainerScope.scopeCreated)
      let acted := item.respond action resolved.1 resolved.2.2
      ⟨acted.1, some (.ofScope (.container resolved.2.1)), acted.2⟩ := by
  have opens : (ScopeFactory.container container).create journal =
      (.opened (.container (.ofContainer container)),
        journal.report ContainerScope.scopeCreated) := rfl
  exact due_of_opened asks opens action

end Item

/-! ## What the worker does -/

/-- The worker reports how the item in flight has ended, once, and takes the next one. -/
theorem Worker.goes_on_after {α : Type} [Queued α] {worker : Worker α} {flight : Flight}
    (executing : worker.phase = .executing flight) (channel : Channel α) (now graceMs : Nat)
    (result : ExecutionResult) :
    let view : Surroundings := ⟨now, graceMs, false, some result⟩
    ∃ notices reports returns, worker.step view channel = some notices ∧
      notices.worker.step view notices.channel = some reports ∧
      reports.worker.step view reports.channel = some returns ∧
      returns.worker.phase = .dequeuing ∧ returns.channel = channel ∧
      notices.reports ++ reports.reports ++ returns.reports =
        flight.reports graceMs (now - flight.startedAt) result := by
  have first : worker.step ⟨now, graceMs, false, some result⟩ channel =
      worker.moveTo channel (.reporting flight result) [] := by
    unfold step
    rw [executing]
  exact ⟨_, _, _, first, rfl, rfl, rfl, rfl, List.append_nil _⟩

namespace Item

open ContainerScope in
/-- An item that gets its service from a container ends the process if two of these panic:
the constructors or the action, the destructor of what the action has captured, and a hook
of an instance that was constructed. Otherwise there is one result, which the worker
reports before it takes the next item. -/
theorem crashes_iff_two_panic (container : Container) (item : Item) {type : ServiceType}
    (asks : item.dependency = some type) (action : Action Journal) (journal : Journal) :
    let executed := item.execute (ScopeFactory.container container).create action journal
    let resolved := (ofContainer container).resolve type (journal.report scopeCreated)
    let breaks := (∃ payload stack, resolved.1 = .panicked payload stack) ∨
      ∃ held payload, resolved.1 = .resolved held ∧
        (item.call action (some held) resolved.2.2).1 = .panicked payload
    let spills := item.keepsake = .panicking
    let hooks := ∃ held ∈ resolved.2.1.holdings.live, HookPanics container.services held
    (executed.1 = .crashed ↔ breaks ∧ hooks ∨ breaks ∧ spills ∨ spills ∧ hooks) ∧
      (executed.1 ≠ .crashed →
        ∃ result, ExecutionResult.ofConclusion? executed.1 = some result ∧
          ∀ (worker : Worker WorkItem) flight, worker.phase = .executing flight →
            ∀ channel now graceMs,
              let view : Surroundings := ⟨now, graceMs, false, some result⟩
              ∃ notices reports returns, worker.step view channel = some notices ∧
                notices.worker.step view notices.channel = some reports ∧
                reports.worker.step view reports.channel = some returns ∧
                returns.worker.phase = .dequeuing ∧ returns.channel = channel ∧
                notices.reports ++ reports.reports ++ returns.reports =
                  flight.reports graceMs (now - flight.startedAt) result) := by
  intro executed resolved breaks spills hooks
  have left : resolved.2.1.Sound := serve_sound (ofContainer_sound container) (.resolve type _)
  constructor
  · show (item.execute _ action journal).1 = .crashed ↔ _
    rw [execute_eq_crashed_iff, due_of_container container asks]
    have breaking : (item.respond action resolved.1 resolved.2.2).1.panic?.isSome = true ↔
        breaks := (Ending.isSome_panic?_iff _).trans (item.respond_eq_panicked_iff action _ _)
    have spilling : (item.drop (item.respond action resolved.1 resolved.2.2).2).1.isSome = true ↔
        spills := item.isSome_drop_iff _
    have hooking : (resolved.2.1.dispose
        (item.drop (item.respond action resolved.1 resolved.2.2).2).2).1.isSome = true ↔ hooks :=
      isSome_dispose_iff left _
    rw [← breaking, ← spilling, ← hooking]
    exact two_le_length_iff _ _ _
  · intro alive
    have reported : ExecutionResult.ofConclusion? executed.1 ≠ none :=
      fun nothing => alive ((Conclusion.eq_crashed_iff _).mpr nothing)
    obtain ⟨result, isResult⟩ := Option.ne_none_iff_exists'.mp reported
    exact ⟨result, isResult, fun worker flight executing channel now graceMs =>
      Worker.goes_on_after executing channel now graceMs result⟩

/-- A constructor panics, and so does the hook of what it had obtained. -/
theorem crashes_iff_two_panic_in_constructor :
    let part : Service := ⟨⟨"Part", "P"⟩, [], .panicking⟩
    let whole : Service := ⟨⟨"Whole", "W"⟩, [.get part.type, .panic "boom"], .silent⟩
    let item : Item := .mk "job" (some whole.type) [] .silent none
    let action : Action Journal := fun _ journal => (.returned, journal)
    (item.execute (ScopeFactory.container ⟨[part, whole]⟩).create action (.ofSerial 0)).1 =
      .crashed := by
  intro part whole item action
  have crashes := crashes_iff_two_panic ⟨[part, whole]⟩ item rfl action (.ofSerial 0)
  refine crashes.1.mpr (.inl ⟨.inl ⟨.text "boom", [whole.type], rfl⟩, ?_⟩)
  exact ⟨⟨part.type, 0, []⟩, List.mem_singleton_self _, part, rfl, rfl⟩

/-- The action panics, and then the hook of its service: nothing is reported. -/
theorem no_result_of_action_and_hook :
    let service : Service := ⟨⟨"Service", "S"⟩, [], .panicking⟩
    let item : Item := .mk "job" (some service.type) [.panic (.text "boom")] .silent none
    let action : Action Journal := fun _ journal => (.panicked (.text "boom"), journal)
    let executed := item.execute (ScopeFactory.container ⟨[service]⟩).create action (.ofSerial 0)
    executed.1 = .crashed ∧ ¬ ∃ result, ExecutionResult.ofConclusion? executed.1 = some result := by
  intro service item action executed
  have crashed : executed.1 = .crashed := by decide
  rw [crashed]
  exact ⟨rfl, nofun⟩

end Item

end WorkHost
