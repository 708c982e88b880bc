import WorkHost.Work.Execution

/-!
Contract: what an execution can tell about scopes.

Two kinds of scopes, with the states that they share, are alike if their operations come
out alike. Then the executions of an item come out alike as well: they start, finish and
are aborted with the same conclusion, and what they leave behind is alike.
-/

namespace WorkHost

/-- The outcomes differ at most in the instance. -/
inductive Resolution.Alike (instances : Instance → Instance → Prop) :
    Resolution → Resolution → Prop where
  | resolved {held other : Instance} (alike : instances held other) :
    Alike instances (.resolved held) (.resolved other)
  | failed (failure : Failure) : Alike instances (.failed failure) (.failed failure)
  | panicked (payload : Payload) (stack : List ServiceType) :
    Alike instances (.panicked payload stack) (.panicked payload stack)

theorem Resolution.Alike.ofType {instances : Instance → Instance → Prop}
    (types : ∀ {held other : Instance}, instances held other → held.type = other.type)
    {resolution other : Resolution} (type : ServiceType)
    (alike : Alike instances resolution other) :
    Alike instances (resolution.ofType type) (other.ofType type) := by
  cases alike with
  | resolved alike =>
    simp only [Resolution.ofType, types alike]
    split
    · exact .resolved alike
    · exact .failed _
  | failed failure => exact .failed failure
  | panicked payload stack => exact .panicked payload stack

inductive Opening.Alike {σ σ' : Type} (scopes : σ → σ' → Prop) :
    Opening σ → Opening σ' → Prop where
  | opened {scope : σ} {other : σ'} (alike : scopes scope other) :
    Alike scopes (.opened scope) (.opened other)
  | refused (failure : Failure) : Alike scopes (.refused failure) (.refused failure)
  | panicked (payload : Payload) : Alike scopes (.panicked payload) (.panicked payload)

/-- Both guards hold scopes that are alike, or neither holds one. -/
def ScopeGuard.Alike {σ σ' : Type} (scopes : σ → σ' → Prop) (guard : ScopeGuard σ)
    (other : ScopeGuard σ') : Prop :=
  Option.Rel scopes guard.scope other.scope

def Release.Alike {τ τ' : Type} (states : τ → τ' → Prop) (release : Release τ)
    (other : Release τ') : Prop :=
  release.unwinding = other.unwinding ∧ states release.state other.state

inductive Start.Alike {σ σ' : Type} (instances : Instance → Instance → Prop)
    (scopes : σ → σ' → Prop) : Start σ → Start σ' → Prop where
  | ended (conclusion : Conclusion) :
    Alike instances scopes (.ended conclusion) (.ended conclusion)
  | acting {guard : Option (ScopeGuard σ)} {other : Option (ScopeGuard σ')}
    {held held' : Option Instance} (guards : Option.Rel (ScopeGuard.Alike scopes) guard other)
    (dependency : Option.Rel instances held held') :
    Alike instances scopes (.acting guard held) (.acting other held')

section

variable {σ σ' τ τ' : Type} [Logbook τ] [Logbook τ'] [ServiceScope σ τ] [ServiceScope σ' τ']

/-- Scopes, their instances and the states they share, of which nobody can tell which of two
kinds they are. -/
structure Likeness (instances : Instance → Instance → Prop) (scopes : σ → σ' → Prop)
    (states : τ → τ' → Prop) : Prop where
  type {held other : Instance} : instances held other → held.type = other.type
  write {state : τ} {other : τ'} (line : String) : states state other →
    states (Logbook.write state line) (Logbook.write other line)
  resolveAny {scope : σ} {other : σ'} {state : τ} {state' : τ'} (type : ServiceType) :
    scopes scope other → states state state' →
      Resolution.Alike instances (ServiceScope.resolveAny scope type state).1
          (ServiceScope.resolveAny other type state').1 ∧
        scopes (ServiceScope.resolveAny scope type state).2.1
            (ServiceScope.resolveAny other type state').2.1 ∧
          states (ServiceScope.resolveAny scope type state).2.2
            (ServiceScope.resolveAny other type state').2.2
  dispose {scope : σ} {other : σ'} {state : τ} {state' : τ'} :
    scopes scope other → states state state' →
      (ServiceScope.dispose scope state).1 = (ServiceScope.dispose other state').1 ∧
        states (ServiceScope.dispose scope state).2 (ServiceScope.dispose other state').2

namespace Likeness

variable {instances : Instance → Instance → Prop} {scopes : σ → σ' → Prop}
  {states : τ → τ' → Prop}

theorem resolve (likeness : Likeness instances scopes states) {guard : ScopeGuard σ}
    {other : ScopeGuard σ'} {state : τ} {state' : τ'} (type : ServiceType)
    (guards : guard.Alike scopes other) (same : states state state') :
    Resolution.Alike instances (guard.resolve type state).1 (other.resolve type state').1 ∧
      (guard.resolve type state).2.1.Alike scopes (other.resolve type state').2.1 ∧
        states (guard.resolve type state).2.2 (other.resolve type state').2.2 := by
  rcases guard with ⟨_ | scope⟩ <;> rcases other with ⟨_ | scope'⟩ <;> cases guards
  case none => exact ⟨.failed _, .none, same⟩
  case some scopesAlike =>
    obtain ⟨resolutions, left, rest⟩ := likeness.resolveAny type scopesAlike same
    exact ⟨resolutions.ofType likeness.type type, .some left, rest⟩

theorem disposeOnce (likeness : Likeness instances scopes states) {guard : ScopeGuard σ}
    {other : ScopeGuard σ'} {state : τ} {state' : τ'} (guards : guard.Alike scopes other)
    (same : states state state') :
    (guard.disposeOnce state).1 = (other.disposeOnce state').1 ∧
      (guard.disposeOnce state).2.1.Alike scopes (other.disposeOnce state').2.1 ∧
        states (guard.disposeOnce state).2.2 (other.disposeOnce state').2.2 := by
  rcases guard with ⟨_ | scope⟩ <;> rcases other with ⟨_ | scope'⟩ <;> cases guards
  case none => exact ⟨rfl, .none, same⟩
  case some scopesAlike =>
    obtain ⟨panics, rest⟩ := likeness.dispose scopesAlike same
    exact ⟨panics, .none, rest⟩

theorem drop (likeness : Likeness instances scopes states) {guard : ScopeGuard σ}
    {other : ScopeGuard σ'} {state : τ} {state' : τ'} (guards : guard.Alike scopes other)
    (same : states state state') :
    (guard.drop state).1 = (other.drop state').1 ∧
      states (guard.drop state).2 (other.drop state').2 := by
  obtain ⟨panics, -, rest⟩ := likeness.disposeOnce guards same
  exact ⟨panics, rest⟩

theorem dropItem (likeness : Likeness instances scopes states) (item : Item) {state : τ}
    {state' : τ'} (same : states state state') :
    (item.drop state).1 = (item.drop state').1 ∧
      states (item.drop state).2 (item.drop state').2 := by
  have dropped := likeness.write (item.label ++ ": dropped") same
  unfold Item.drop
  cases item.keepsake with
  | silent => exact ⟨rfl, same⟩
  | logged => exact ⟨rfl, dropped⟩
  | panicking => exact ⟨rfl, dropped⟩

omit [Logbook τ] [Logbook τ'] [ServiceScope σ τ] [ServiceScope σ' τ'] in
theorem run {release : Release τ} {other : Release τ'} {destroy : τ → Option Payload × τ}
    {destroy' : τ' → Option Payload × τ'} (releases : release.Alike states other)
    (destroyed : ∀ {state : τ} {state' : τ'}, states state state' →
      (destroy state).1 = (destroy' state').1 ∧
        states (destroy state).2 (destroy' state').2) :
    (release.run destroy).Alike states (other.run destroy') := by
  obtain ⟨unwinding, same⟩ := releases
  obtain ⟨panics, rest⟩ := destroyed same
  unfold Release.run
  rw [unwinding]
  split
  · exact ⟨unwinding, same⟩
  · exact ⟨congrArg other.unwinding.after panics, rest⟩

theorem dropItems (likeness : Likeness instances scopes states) (items : List Item)
    {release : Release τ} {other : Release τ'} (releases : release.Alike states other) :
    (items.foldl Release.dropItem release).Alike states
      (items.foldl Release.dropItem other) := by
  induction items generalizing release other with
  | nil => exact releases
  | cons item items inductionHypothesis =>
    exact inductionHypothesis (run releases (likeness.dropItem item))

theorem dropGuard (likeness : Likeness instances scopes states) {guard : ScopeGuard σ}
    {other : ScopeGuard σ'} (guards : guard.Alike scopes other) {release : Release τ}
    {release' : Release τ'} (releases : release.Alike states release') :
    (release.dropGuard guard).Alike states (release'.dropGuard other) :=
  run releases (likeness.drop guards)

theorem closeGuard (likeness : Likeness instances scopes states) {guard : ScopeGuard σ}
    {other : ScopeGuard σ'} (guards : guard.Alike scopes other) {release : Release τ}
    {release' : Release τ'} (releases : release.Alike states release') :
    (release.closeGuard guard).Alike states (release'.closeGuard other) := by
  obtain ⟨unwinding, same⟩ := releases
  obtain ⟨panics, left, rest⟩ := likeness.disposeOnce guards same
  apply likeness.dropGuard left
  exact ⟨congr (congrArg Unwinding.after unwinding) panics, rest⟩

theorem leaveGuard (likeness : Likeness instances scopes states) {guard : ScopeGuard σ}
    {other : ScopeGuard σ'} (guards : guard.Alike scopes other) {release : Release τ}
    {release' : Release τ'} (releases : release.Alike states release') :
    (release.leaveGuard guard).Alike states (release'.leaveGuard other) := by
  unfold Release.leaveGuard
  rw [releases.1]
  split
  · exact likeness.closeGuard guards releases
  · exact likeness.dropGuard guards releases

theorem dropAll (likeness : Likeness instances scopes states) (items : List Item)
    {guard : Option (ScopeGuard σ)} {other : Option (ScopeGuard σ')}
    (guards : Option.Rel (ScopeGuard.Alike scopes) guard other) {release : Release τ}
    {release' : Release τ'} (releases : release.Alike states release') :
    (release.dropAll items guard).Alike states (release'.dropAll items other) := by
  have dropped := likeness.dropItems items releases
  cases guards with
  | none => exact dropped
  | some guards => exact likeness.dropGuard guards dropped

theorem leave (likeness : Likeness instances scopes states) (item : Item) (ending : Ending)
    {guard : Option (ScopeGuard σ)} {other : Option (ScopeGuard σ')}
    (guards : Option.Rel (ScopeGuard.Alike scopes) guard other) {state : τ} {state' : τ'}
    (same : states state state') :
    (item.leave guard ending state).1 = (item.leave other ending state').1 ∧
      states (item.leave guard ending state).2 (item.leave other ending state').2 := by
  have releases : Release.Alike states ⟨ending.unwinding, state⟩ ⟨ending.unwinding, state'⟩ :=
    ⟨rfl, same⟩
  obtain ⟨unwinding, rest⟩ := likeness.dropAll [item] guards releases
  exact ⟨congrArg ending.conclude unwinding, rest⟩

theorem finish (likeness : Likeness instances scopes states) (item : Item) (ending : Ending)
    {guard : Option (ScopeGuard σ)} {other : Option (ScopeGuard σ')}
    (guards : Option.Rel (ScopeGuard.Alike scopes) guard other) {state : τ} {state' : τ'}
    (same : states state state') :
    (item.finish guard ending state).1 = (item.finish other ending state').1 ∧
      states (item.finish guard ending state).2 (item.finish other ending state').2 := by
  have releases : Release.Alike states ⟨ending.unwinding, state⟩ ⟨ending.unwinding, state'⟩ :=
    ⟨rfl, same⟩
  have dropped := run releases (likeness.dropItem item)
  cases guards with
  | none => exact ⟨congrArg ending.conclude dropped.1, dropped.2⟩
  | some guards =>
    obtain ⟨unwinding, rest⟩ := likeness.leaveGuard guards dropped
    exact ⟨congrArg ending.conclude unwinding, rest⟩

theorem abort (likeness : Likeness instances scopes states) (item : Item)
    (offered : Option Item) {guard : Option (ScopeGuard σ)} {other : Option (ScopeGuard σ')}
    (guards : Option.Rel (ScopeGuard.Alike scopes) guard other) {state : τ} {state' : τ'}
    (same : states state state') :
    (item.abort guard offered state).1 = (item.abort other offered state').1 ∧
      states (item.abort guard offered state).2 (item.abort other offered state').2 := by
  have releases : Release.Alike states ⟨.calm, state⟩ ⟨.calm, state'⟩ := ⟨rfl, same⟩
  obtain ⟨unwinding, rest⟩ := likeness.dropAll (offered.toList ++ [item]) guards releases
  exact ⟨by simp only [Item.abort, unwinding], rest⟩

/-- A task that ends before the first step of its action. -/
theorem ended (likeness : Likeness instances scopes states) (item : Item) (ending : Ending)
    {guard : Option (ScopeGuard σ)} {other : Option (ScopeGuard σ')}
    (guards : Option.Rel (ScopeGuard.Alike scopes) guard other) {state : τ} {state' : τ'}
    (same : states state state') :
    Start.Alike instances scopes (.ended (item.leave guard ending state).1)
        (.ended (item.leave other ending state').1) ∧
      states (item.leave guard ending state).2 (item.leave other ending state').2 := by
  obtain ⟨conclusions, rest⟩ := likeness.leave item ending guards same
  rw [conclusions]
  exact ⟨.ended _, rest⟩

theorem act (likeness : Likeness instances scopes states) (item : Item)
    {guard : Option (ScopeGuard σ)} {other : Option (ScopeGuard σ')}
    (guards : Option.Rel (ScopeGuard.Alike scopes) guard other)
    {held held' : Option Instance} (dependency : Option.Rel instances held held')
    {state : τ} {state' : τ'} (same : states state state') :
    Start.Alike instances scopes (item.act guard held state).1 (item.act other held' state').1 ∧
      states (item.act guard held state).2 (item.act other held' state').2 := by
  unfold Item.act
  cases item.panicEarly with
  | none => exact ⟨.acting guards dependency, same⟩
  | some text => exact likeness.ended item (.panicked (.text text)) guards same

theorem enter (likeness : Likeness instances scopes states) (item : Item) (type : ServiceType)
    {guard : ScopeGuard σ} {other : ScopeGuard σ'} (guards : guard.Alike scopes other)
    {state : τ} {state' : τ'} (same : states state state') :
    Start.Alike instances scopes (item.enter guard type state).1
        (item.enter other type state').1 ∧
      states (item.enter guard type state).2 (item.enter other type state').2 := by
  obtain ⟨resolutions, guards, same⟩ := likeness.resolve type guards same
  unfold Item.enter
  generalize guard.resolve type state = answer at resolutions guards same ⊢
  generalize other.resolve type state' = answer' at resolutions guards same ⊢
  rcases answer with ⟨resolution, guard, state⟩
  rcases answer' with ⟨resolution', guard', state'⟩
  cases resolutions with
  | resolved alike => exact likeness.act item (.some guards) (.some alike) same
  | failed failure => exact likeness.ended item _ (.some guards) same
  | panicked payload stack => exact likeness.ended item _ (.some guards) same

theorem start (likeness : Likeness instances scopes states) (item : Item)
    {create : τ → Opening σ × τ} {create' : τ' → Opening σ' × τ'}
    (created : ∀ {state : τ} {state' : τ'}, states state state' →
      Opening.Alike scopes (create state).1 (create' state').1 ∧
        states (create state).2 (create' state').2)
    {state : τ} {state' : τ'} (same : states state state') :
    Start.Alike instances scopes (item.start create state).1 (item.start create' state').1 ∧
      states (item.start create state).2 (item.start create' state').2 := by
  unfold Item.start ScopeGuard.openWith
  cases item.dependency with
  | none => exact likeness.act item .none .none same
  | some type =>
    obtain ⟨openings, same⟩ := created same
    generalize create state = opening at openings same ⊢
    generalize create' state' = opening' at openings same ⊢
    rcases opening with ⟨opening, state⟩
    rcases opening' with ⟨opening', state'⟩
    cases openings with
    | opened alike => exact likeness.enter item type (.some alike) same
    | refused failure => exact likeness.ended item _ .none same
    | panicked payload => exact likeness.ended item _ .none same

end Likeness

end

end WorkHost
