import WorkHost.Proofs.Work.Crew

/-!
Contract: what a single task does with its scope.

A task leaves a trail: it opens a scope and resolves its service, its action makes steps,
and the scope is disposed as the last deed of all (`Crew.Trail`). Each part of an
execution adds its deeds to the record, so that every turn of a task continues its trail,
whichever way the task ends (`take_continues`).
-/

namespace WorkHost

namespace Deed

def scope? : Deed → Option Nat
  | .opened scope | .resolved scope | .disposed scope => some scope
  | .acted => none

def isOpening : Deed → Bool
  | .opened _ => true
  | _ => false

def isDisposal : Deed → Bool
  | .disposed _ => true
  | _ => false

/-- The steps of an action. -/
def acting (steps : Nat) : List Deed := List.replicate steps .acted

/-- What a task has done that holds a scope. -/
def holding (scope steps : Nat) : List Deed := .opened scope :: .resolved scope :: acting steps

/-- The scopes that deeds are about. -/
def scopes (deeds : List Deed) : List Nat := deeds.filterMap scope?

@[simp] theorem scopes_append (deeds more : List Deed) :
    scopes (deeds ++ more) = scopes deeds ++ scopes more :=
  List.filterMap_append

@[simp] theorem scopes_acting (steps : Nat) : scopes (acting steps) = [] := by
  simp [scopes, acting, List.filterMap_replicate, scope?]

@[simp] theorem scopes_holding (scope steps : Nat) :
    scopes (holding scope steps) = [scope, scope] :=
  congrArg (fun rest => [scope, scope] ++ rest) (scopes_acting steps)

theorem acting_succ (steps : Nat) : acting steps ++ [.acted] = acting (steps + 1) :=
  List.replicate_succ'.symm

theorem holding_succ (scope steps : Nat) :
    holding scope steps ++ [.acted] = holding scope (steps + 1) := by
  rw [holding, List.cons_append, List.cons_append, acting_succ]
  rfl

end Deed

/-! ## What the parts of an execution write down -/

namespace Ledger

variable {σ τ : Type}

/-- The task whose turn it is has done something, without opening a scope. -/
structure Adds (deeds : List Deed) (before after : Ledger τ) : Prop where
  actor : after.actor = before.actor
  nextScope : after.nextScope = before.nextScope
  deeds : after.deeds = before.deeds ++ deeds.map (before.actor, ·)

namespace Adds

theorem refl (ledger : Ledger τ) : Adds [] ledger ledger := ⟨rfl, rfl, by simp⟩

theorem trans {first second : List Deed} {before middle after : Ledger τ}
    (adds : Adds first before middle) (more : Adds second middle after) :
    Adds (first ++ second) before after where
  actor := more.actor.trans adds.actor
  nextScope := more.nextScope.trans adds.nextScope
  deeds := by rw [more.deeds, adds.deeds, adds.actor, List.map_append, List.append_assoc]

theorem change (ledger : Ledger τ) (state : τ) : Adds [] ledger { ledger with state } :=
  ⟨rfl, rfl, by simp⟩

theorem note (ledger : Ledger τ) (state : τ) (deed : Deed) :
    Adds [deed] ledger ({ ledger with state }.note deed) := ⟨rfl, rfl, rfl⟩

end Adds

/-- The scope has been disposed, unless the process ended before that. -/
def Disposes (scope : Nat) (before : Ledger τ) (outcome : Conclusion × Ledger τ) : Prop :=
  Adds [.disposed scope] before outcome.2 ∨ outcome.1 = .crashed ∧ Adds [] before outcome.2

theorem adds_run {deeds : List Deed} {destroy : Ledger τ → Option Payload × Ledger τ}
    (adds : ∀ ledger, Adds deeds ledger (destroy ledger).2) (release : Release (Ledger τ)) :
    Adds deeds release.state (release.run destroy).state ∨
      release.unwinding = .crashed ∧ release.run destroy = release := by
  unfold Release.run
  cases unwinding : release.unwinding with
  | crashed => exact .inr ⟨rfl, rfl⟩
  | calm => exact .inl (adds release.state)
  | panicking payload => exact .inl (adds release.state)

theorem adds_nil_run {destroy : Ledger τ → Option Payload × Ledger τ}
    (adds : ∀ ledger, Adds [] ledger (destroy ledger).2) (release : Release (Ledger τ)) :
    Adds [] release.state (release.run destroy).state := by
  rcases adds_run adds release with ran | ⟨-, same⟩
  · exact ran
  · rw [same]
    exact .refl _

section

variable [Logbook τ]

theorem adds_drop (item : Item) (ledger : Ledger τ) : Adds [] ledger (item.drop ledger).2 := by
  unfold Item.drop
  cases item.keepsake <;> exact ⟨rfl, rfl, by simp [Logbook.write, lift]⟩

theorem adds_dropItems (items : List Item) (release : Release (Ledger τ)) :
    Adds [] release.state (items.foldl Release.dropItem release).state := by
  induction items generalizing release with
  | nil => exact .refl _
  | cons item items inductionHypothesis =>
    exact (adds_nil_run (adds_drop item) release).trans
      (inductionHypothesis (release.dropItem item))

end

section

variable [ServiceScope σ τ]

theorem dropGuard_disposes (numbered : Numbered σ) (release : Release (Ledger τ)) :
    Adds [.disposed numbered.number] release.state
        (release.dropGuard (ScopeGuard.ofScope numbered)).state ∨
      release.unwinding = .crashed ∧
        release.dropGuard (ScopeGuard.ofScope numbered) = release :=
  adds_run (fun ledger => .note ledger _ _) release

theorem closeGuard_disposes (numbered : Numbered σ) (release : Release (Ledger τ)) :
    Adds [.disposed numbered.number] release.state
      (release.closeGuard (ScopeGuard.ofScope numbered)).state := by
  have disposed : Adds [.disposed numbered.number] release.state
      ((ScopeGuard.ofScope numbered).disposeOnce release.state).2.2 := .note release.state _ _
  -- The guard has given its scope away, so that nothing is left to be disposed.
  have emptied : ∀ ledger : Ledger τ,
      Adds [] ledger ((⟨none⟩ : ScopeGuard (Numbered σ)).drop ledger).2 := .refl
  exact disposed.trans (adds_nil_run emptied
    ⟨release.unwinding.after ((ScopeGuard.ofScope numbered).disposeOnce release.state).1, _⟩)

theorem leaveGuard_disposes (numbered : Numbered σ) (release : Release (Ledger τ)) :
    Adds [.disposed numbered.number] release.state
        (release.leaveGuard (ScopeGuard.ofScope numbered)).state ∨
      release.unwinding = .crashed ∧
        release.leaveGuard (ScopeGuard.ofScope numbered) = release := by
  unfold Release.leaveGuard
  split
  · exact .inl (closeGuard_disposes numbered release)
  · exact dropGuard_disposes numbered release

end

section

variable [Logbook τ] [ServiceScope σ τ]

theorem conclude_crashed (ending : Ending) : ending.conclude .crashed = .crashed := by
  cases ending <;> rfl

theorem leave_adds (item : Item) (ending : Ending) (ledger : Ledger τ) :
    Adds [] ledger (item.leave (none : Option (ScopeGuard (Numbered σ))) ending ledger).2 :=
  adds_dropItems [item] ⟨ending.unwinding, ledger⟩

theorem finish_adds (item : Item) (ending : Ending) (ledger : Ledger τ) :
    Adds [] ledger (item.finish (none : Option (ScopeGuard (Numbered σ))) ending ledger).2 :=
  adds_dropItems [item] ⟨ending.unwinding, ledger⟩

theorem abort_adds (item : Item) (offered : Option Item) (ledger : Ledger τ) :
    Adds [] ledger (item.abort (none : Option (ScopeGuard (Numbered σ))) offered ledger).2 :=
  adds_dropItems (offered.toList ++ [item]) ⟨.calm, ledger⟩

omit [Logbook τ] [ServiceScope σ τ] in
/-- What was captured is destroyed first, and the guard goes away last. -/
theorem Disposes.intro {scope : Nat} {before : Ledger τ} {dropped released : Release (Ledger τ)}
    {conclusion : Conclusion} (adds : Adds [] before dropped.state)
    (disposes : Adds [.disposed scope] dropped.state released.state ∨
      dropped.unwinding = .crashed ∧ released = dropped)
    (crashes : released.unwinding = .crashed → conclusion = .crashed) :
    Disposes scope before (conclusion, released.state) := by
  rcases disposes with disposed | ⟨crashed, rfl⟩
  · exact .inl (adds.trans disposed)
  · exact .inr ⟨crashes crashed, adds⟩

theorem leave_disposes (item : Item) (numbered : Numbered σ) (ending : Ending)
    (ledger : Ledger τ) :
    Disposes numbered.number ledger (item.leave (some (.ofScope numbered)) ending ledger) := by
  apply Disposes.intro (adds_dropItems [item] ⟨ending.unwinding, ledger⟩)
    (dropGuard_disposes numbered _)
  intro crashed
  exact (congrArg ending.conclude crashed).trans (conclude_crashed ending)

theorem finish_disposes (item : Item) (numbered : Numbered σ) (ending : Ending)
    (ledger : Ledger τ) :
    Disposes numbered.number ledger (item.finish (some (.ofScope numbered)) ending ledger) := by
  apply Disposes.intro (adds_dropItems [item] ⟨ending.unwinding, ledger⟩)
    (leaveGuard_disposes numbered _)
  intro crashed
  exact (congrArg ending.conclude crashed).trans (conclude_crashed ending)

theorem abort_disposes (item : Item) (numbered : Numbered σ) (offered : Option Item)
    (ledger : Ledger τ) :
    Disposes numbered.number ledger (item.abort (some (.ofScope numbered)) offered ledger) := by
  apply Disposes.intro (adds_dropItems (offered.toList ++ [item]) ⟨.calm, ledger⟩)
    (dropGuard_disposes numbered _)
  intro crashed
  exact if_pos (congrArg Unwinding.isCrashed crashed)

end

end Ledger

/-! ## Trails -/

namespace Crew

variable {σ τ : Type}

/-- What a task can have done that has come so far. -/
inductive Trail (item : Item) : Phase (Numbered σ) → List Deed → Prop where
  | fresh : Trail item .fresh []
  | free (steps : Nat) (dependency : Option Instance) :
    item.dependency = none → Trail item (.acting none dependency) (Deed.acting steps)
  | holding (numbered : Numbered σ) (steps : Nat) (dependency : Option Instance) :
    item.dependency.isSome →
      Trail item (.acting (some (.ofScope numbered)) dependency)
        (Deed.holding numbered.number steps)
  /-- It has not opened a scope. -/
  | unopened (conclusion : Conclusion) : Trail item (.ended conclusion) []
  | left (steps : Nat) (conclusion : Conclusion) :
    item.dependency = none → Trail item (.ended conclusion) (Deed.acting steps)
  | released (scope steps : Nat) (conclusion : Conclusion) :
    item.dependency.isSome →
      Trail item (.ended conclusion) (Deed.holding scope steps ++ [.disposed scope])
  /-- The process ended before the scope could be disposed. -/
  | lost (scope steps : Nat) :
    item.dependency.isSome → Trail item (.ended .crashed) (Deed.holding scope steps)

namespace Trail

variable {item : Item} {phase : Phase (Numbered σ)} {deeds : List Deed}

theorem of_ended {conclusion : Conclusion} (trail : Trail item phase deeds)
    (ended : phase.erase = .ended conclusion) (alive : conclusion ≠ .crashed) :
    (∃ steps, deeds = Deed.acting steps) ∨
      ∃ scope steps, deeds = Deed.holding scope steps ++ [.disposed scope] := by
  cases trail with
  | fresh | free _ _ _ | holding _ _ _ _ => contradiction
  | unopened _ => exact .inl ⟨0, rfl⟩
  | left steps _ _ => exact .inl ⟨steps, rfl⟩
  | released scope steps _ _ => exact .inr ⟨scope, steps, rfl⟩
  | lost _ _ _ => exact absurd (Phase.ended.inj ended).symm alive

theorem count_le (trail : Trail item phase deeds) :
    deeds.countP Deed.isOpening ≤ 1 ∧ deeds.countP Deed.isDisposal ≤ 1 := by
  cases trail <;>
    simp [Deed.holding, Deed.acting, Deed.isOpening, Deed.isDisposal, List.countP_cons,
      List.countP_replicate]

theorem acted_of_unscoped (trail : Trail item phase deeds) (unscoped : item.dependency = none) :
    ∀ deed ∈ deeds, deed = .acted := by
  cases trail with
  | fresh | unopened _ => nofun
  | free steps _ _ | left steps _ _ => exact fun deed isDeed => List.eq_of_mem_replicate isDeed
  | holding _ _ _ isScoped | released _ _ _ isScoped | lost _ _ isScoped =>
    rw [unscoped] at isScoped
    contradiction

end Trail

/-- The task whose turn it is has done more than `deeds`, with its own scope or new ones. -/
structure Extends (deeds added : List Deed) (before after : Ledger τ) : Prop where
  actor : after.actor = before.actor
  recorded : after.deeds = before.deeds ++ added.map (before.actor, ·)
  nextScope : before.nextScope ≤ after.nextScope
  own : ∀ scope ∈ Deed.scopes added, scope ∈ Deed.scopes deeds ∨
    before.nextScope ≤ scope ∧ scope < after.nextScope

namespace Extends

variable {deeds added more : List Deed} {before middle after : Ledger τ}

theorem of_adds (adds : Ledger.Adds added before after)
    (own : ∀ scope ∈ Deed.scopes added, scope ∈ Deed.scopes deeds) :
    Extends deeds added before after where
  actor := adds.actor
  recorded := adds.deeds
  nextScope := Nat.le_of_eq adds.nextScope.symm
  own := fun scope used => .inl (own scope used)

theorem trans (first : Extends deeds added before middle)
    (second : Extends (deeds ++ added) more middle after) :
    Extends deeds (added ++ more) before after where
  actor := second.actor.trans first.actor
  recorded := by
    rw [second.recorded, first.recorded, first.actor, List.map_append, List.append_assoc]
  nextScope := Nat.le_trans first.nextScope second.nextScope
  own := by
    intro scope used
    have earlier := first.nextScope
    have later := second.nextScope
    rw [Deed.scopes_append, List.mem_append] at used
    rcases used with used | used
    · rcases first.own scope used with known | new
      · exact .inl known
      · omega
    · rcases second.own scope used with known | new
      · rw [Deed.scopes_append, List.mem_append] at known
        rcases known with known | known
        · exact .inl known
        · rcases first.own scope known with known | new
          · exact .inl known
          · omega
      · omega

/-- A scope is opened and gets the next number. -/
theorem opened (ledger : Ledger τ) (state : τ) :
    Extends deeds [.opened ledger.nextScope] ledger
      ({ ledger with state, nextScope := ledger.nextScope + 1 }.note
        (.opened ledger.nextScope)) where
  actor := rfl
  recorded := rfl
  nextScope := Nat.le_succ _
  own := by
    intro scope used
    obtain rfl : scope = ledger.nextScope := List.mem_singleton.mp used
    exact .inr ⟨Nat.le_refl _, Nat.lt_succ_self _⟩

end Extends

/-- The task whose turn it is continues its trail `deeds`. -/
def Continues (item : Item) (deeds : List Deed) (before : Ledger τ)
    (outcome : Phase (Numbered σ) × Ledger τ) : Prop :=
  ∃ added, Trail item outcome.1 (deeds ++ added) ∧ Extends deeds added before outcome.2

namespace Continues

variable {item : Item} {deeds added : List Deed} {before after : Ledger τ}
  {phase : Phase (Numbered σ)}

theorem after_extends {middle : Ledger τ} {outcome : Phase (Numbered σ) × Ledger τ}
    (extends_ : Extends deeds added before middle)
    (continues : Continues item (deeds ++ added) middle outcome) :
    Continues item deeds before outcome := by
  obtain ⟨more, trail, later⟩ := continues
  rw [List.append_assoc] at trail
  exact ⟨added ++ more, trail, extends_.trans later⟩

theorem of_adds (trail : Trail item phase (deeds ++ added))
    (adds : Ledger.Adds added before after)
    (own : ∀ scope ∈ Deed.scopes added, scope ∈ Deed.scopes deeds) :
    Continues item deeds before (phase, after) :=
  ⟨added, trail, .of_adds adds own⟩

theorem of_adds_nil (trail : Trail item phase deeds) (adds : Ledger.Adds [] before after) :
    Continues item deeds before (phase, after) := by
  apply of_adds _ adds nofun
  rw [List.append_nil]
  exact trail

/-- The scope that a task was using is disposed. -/
theorem of_disposes {scope steps : Nat} {outcome : Conclusion × Ledger τ}
    (isScoped : item.dependency.isSome) (disposes : Ledger.Disposes scope before outcome) :
    Continues item (Deed.holding scope steps) before
      ((.ended outcome.1 : Phase (Numbered σ)), outcome.2) := by
  rcases disposes with adds | ⟨crashed, adds⟩
  · apply of_adds (.released scope steps outcome.1 isScoped) adds
    intro other isScope
    obtain rfl : other = scope := List.mem_singleton.mp isScope
    rw [Deed.scopes_holding]
    exact List.mem_cons_self
  · rw [crashed]
    exact of_adds_nil (.lost scope steps isScoped) adds

end Continues

section

variable [Logbook τ] [ServiceScope σ τ]

theorem act_continues {item : Item} {deeds : List Deed} {guard : Option (ScopeGuard (Numbered σ))}
    {dependency : Option Instance} (ledger : Ledger τ)
    (acting : Trail item (.acting guard dependency) deeds)
    (left : ∀ ending, Continues item deeds ledger
      ((.ended (item.leave guard ending ledger).1 : Phase (Numbered σ)),
        (item.leave guard ending ledger).2)) :
    Continues item deeds ledger
      (.ofStart (item.act guard dependency ledger).1, (item.act guard dependency ledger).2) := by
  unfold Item.act
  cases item.panicEarly with
  | none => exact .of_adds_nil acting (.refl ledger)
  | some text => exact left (.panicked (.text text))

theorem leave_continues (item : Item) (numbered : Numbered σ) (steps : Nat)
    (isScoped : item.dependency.isSome) (ledger : Ledger τ) (ending : Ending) :
    Continues item (Deed.holding numbered.number steps) ledger
      ((.ended (item.leave (some (.ofScope numbered)) ending ledger).1 : Phase (Numbered σ)),
        (item.leave (some (.ofScope numbered)) ending ledger).2) :=
  .of_disposes isScoped (Ledger.leave_disposes item numbered ending ledger)

theorem enter_continues (item : Item) (type : ServiceType) (numbered : Numbered σ)
    (ledger : Ledger τ) (isScoped : item.dependency.isSome) :
    Continues item [.opened numbered.number] ledger
      (.ofStart (item.enter (.ofScope numbered) type ledger).1,
        (item.enter (.ofScope numbered) type ledger).2) := by
  have resolved : (ScopeGuard.ofScope numbered).resolve type ledger =
      let answer := ServiceScope.resolveAny numbered.scope type ledger.state
      (answer.1.ofType type, .ofScope ⟨numbered.number, answer.2.1⟩,
        { ledger with state := answer.2.2 }.note (.resolved numbered.number)) := rfl
  generalize ServiceScope.resolveAny numbered.scope type ledger.state = answer at resolved
  obtain ⟨resolution, scope, state⟩ := answer
  have extended : Extends [.opened numbered.number] [.resolved numbered.number] ledger
      ({ ledger with state }.note (.resolved numbered.number)) :=
    .of_adds (.note ledger state _) fun _ used => used
  apply Continues.after_extends extended
  have left := leave_continues item ⟨numbered.number, scope⟩ 0 isScoped
    ({ ledger with state }.note (.resolved numbered.number))
  simp only [Item.enter, resolved]
  cases resolution.ofType type with
  | resolved held =>
    exact act_continues _ (.holding ⟨numbered.number, scope⟩ 0 (some held) isScoped) left
  | failed failure => exact left _
  | panicked payload stack => exact left _

theorem start_continues (create : τ → Opening σ × τ) (item : Item) (ledger : Ledger τ) :
    Continues item [] ledger
      (.ofStart (item.start (Ledger.create create) ledger).1,
        (item.start (Ledger.create create) ledger).2) := by
  cases needed : item.dependency with
  | none =>
    simp only [Item.start, needed]
    apply act_continues ledger (.free 0 none needed)
    intro ending
    exact .of_adds_nil (.unopened _) (Ledger.leave_adds item ending ledger)
  | some type =>
    have isScoped : item.dependency.isSome := by rw [needed]; rfl
    rcases opening : create ledger.state with ⟨_ | _ | _, state⟩
    case opened scope =>
      simp only [Item.start, needed, ScopeGuard.openWith, Ledger.create, opening]
      exact .after_extends (.opened ledger state)
        (enter_continues item type ⟨ledger.nextScope, scope⟩ _ isScoped)
    case refused failure =>
      simp only [Item.start, needed, ScopeGuard.openWith, Ledger.create, opening]
      exact .of_adds_nil (.unopened _)
        ((Ledger.Adds.change ledger state).trans (Ledger.leave_adds item _ _))
    case panicked payload =>
      simp only [Item.start, needed, ScopeGuard.openWith, Ledger.create, opening]
      exact .of_adds_nil (.unopened _)
        ((Ledger.Adds.change ledger state).trans (Ledger.leave_adds item _ _))

/-- Whatever a task does, it continues its trail. -/
theorem take_continues (create : τ → Opening σ × τ) (item : Item) {phase : Phase (Numbered σ)}
    {deeds : List Deed} (trail : Trail item phase deeds) (turn : Turn τ) (ledger : Ledger τ) :
    Continues item deeds ledger (phase.take item (Ledger.create create) turn.watched ledger) := by
  cases trail with
  | fresh =>
    cases turn with
    | start => exact start_continues create item ledger
    | act effect => exact .of_adds_nil .fresh (.refl ledger)
    | finish ending => exact .of_adds_nil .fresh (.refl ledger)
    | abort offered => exact .of_adds_nil (.unopened _) (@Ledger.abort_adds σ τ _ _ item none ledger)
  | free steps dependency unscoped =>
    have acted : Trail item (.acting none dependency : Phase (Numbered σ)) (Deed.acting steps) :=
      .free steps dependency unscoped
    cases turn with
    | start => exact .of_adds_nil acted (.refl ledger)
    | act effect =>
      refine .of_adds ?_ (.note ledger (effect ledger.state) .acted) nofun
      rw [Deed.acting_succ]
      exact .free (steps + 1) dependency unscoped
    | finish ending =>
      exact .of_adds_nil (.left steps _ unscoped) (Ledger.finish_adds item ending ledger)
    | abort offered =>
      exact .of_adds_nil (.left steps _ unscoped) (Ledger.abort_adds item offered ledger)
  | holding numbered steps dependency isScoped =>
    have acted : Trail item (.acting (some (.ofScope numbered)) dependency)
        (Deed.holding numbered.number steps) := .holding numbered steps dependency isScoped
    cases turn with
    | start => exact .of_adds_nil acted (.refl ledger)
    | act effect =>
      refine .of_adds ?_ (.note ledger (effect ledger.state) .acted) nofun
      rw [Deed.holding_succ]
      exact .holding numbered (steps + 1) dependency isScoped
    | finish ending =>
      exact .of_disposes isScoped (Ledger.finish_disposes item numbered ending ledger)
    | abort offered =>
      exact .of_disposes isScoped (Ledger.abort_disposes item numbered offered ledger)
  | unopened conclusion => cases turn <;> exact .of_adds_nil (.unopened conclusion) (.refl ledger)
  | left steps conclusion unscoped =>
    cases turn <;> exact .of_adds_nil (.left steps conclusion unscoped) (.refl ledger)
  | released scope steps conclusion isScoped =>
    cases turn <;>
      exact .of_adds_nil (.released scope steps conclusion isScoped) (.refl ledger)
  | lost scope steps isScoped =>
    cases turn <;> exact .of_adds_nil (.lost scope steps isScoped) (.refl ledger)

end

end Crew

end WorkHost
