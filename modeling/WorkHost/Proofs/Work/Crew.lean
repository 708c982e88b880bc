import WorkHost.Proofs.Work.Likeness

/-!
Contract: items that are executed side by side, and a record of what becomes of their scopes.

The tasks of a crew start, act, finish and are aborted in any order, with scopes of any
kind, and anything may happen in between. A watched crew has the same tasks with scopes
that are numbered as they are opened and that write down what is done with them. Being
watched changes nothing (`watch_erase`).
-/

namespace WorkHost

/-! ## Crews -/

/-- How far the task of an item is. -/
inductive Crew.Phase (σ : Type) where
  /-- It has not had its first turn. -/
  | fresh
  | acting (guard : Option (ScopeGuard σ)) (dependency : Option Instance)
  | ended (conclusion : Conclusion)

structure Crew.Member (σ : Type) where
  item : Item
  phase : Crew.Phase σ

structure Crew (σ τ : Type) where
  members : List (Crew.Member σ)
  state : τ

/-- What a task can do next. -/
inductive Crew.Turn (τ : Type) where
  | start
  /-- A step of the action. -/
  | act (effect : τ → τ)
  /-- The action ends by itself. -/
  | finish (ending : Ending)
  /-- It is aborted where it waits or before it starts, perhaps while it enqueues an item. -/
  | abort (offered : Option Item)

inductive Crew.Move (τ : Type) where
  | spawn (item : Item)
  | turn (member : Nat) (next : Crew.Turn τ)
  /-- Something else changes the state. -/
  | other (effect : τ → τ)

namespace Crew

variable {σ τ : Type}

def idle (state : τ) : Crew σ τ := ⟨[], state⟩

def Phase.ofStart : Start σ → Phase σ
  | .ended conclusion => .ended conclusion
  | .acting guard dependency => .acting guard dependency

section

variable [Logbook τ] [ServiceScope σ τ]

/-- A task that cannot do what is asked for does nothing. -/
def Phase.take (item : Item) (create : τ → Opening σ × τ) :
    Phase σ → Turn τ → τ → Phase σ × τ
  | .fresh, .start, state =>
    let (start, state) := item.start create state
    (.ofStart start, state)
  | .fresh, .abort _, state =>
    let (conclusion, state) := item.abort (none : Option (ScopeGuard σ)) none state
    (.ended conclusion, state)
  | .acting guard dependency, .act effect, state => (.acting guard dependency, effect state)
  | .acting guard _, .finish ending, state =>
    let (conclusion, state) := item.finish guard ending state
    (.ended conclusion, state)
  | .acting guard _, .abort offered, state =>
    let (conclusion, state) := item.abort guard offered state
    (.ended conclusion, state)
  | phase, _, state => (phase, state)

def step (create : τ → Opening σ × τ) (crew : Crew σ τ) : Move τ → Crew σ τ
  | .spawn item => { crew with members := crew.members ++ [⟨item, .fresh⟩] }
  | .turn index next =>
    match crew.members[index]? with
    | none => crew
    | some member =>
      let (phase, state) := member.phase.take member.item create next crew.state
      ⟨crew.members.set index { member with phase }, state⟩
  | .other effect => { crew with state := effect crew.state }

def run (create : τ → Opening σ × τ) (crew : Crew σ τ) (moves : List (Move τ)) : Crew σ τ :=
  moves.foldl (step create) crew

end

end Crew

/-! ## The record -/

/-- What a task does that concerns its scope. -/
inductive Deed where
  | opened (scope : Nat)
  | resolved (scope : Nat)
  /-- Its action made a step. -/
  | acted
  | disposed (scope : Nat)
deriving DecidableEq, Repr

structure Numbered (σ : Type) where
  number : Nat
  scope : σ

/-- A state with the record of what the tasks have done. -/
structure Ledger (τ : Type) where
  state : τ
  /-- The task whose turn it is. -/
  actor : Nat
  nextScope : Nat
  deeds : List (Nat × Deed)

namespace Ledger

variable {σ τ : Type}

def blank (state : τ) : Ledger τ := ⟨state, 0, 0, []⟩

def lift (effect : τ → τ) (ledger : Ledger τ) : Ledger τ :=
  { ledger with state := effect ledger.state }

def attend (actor : Nat) (ledger : Ledger τ) : Ledger τ := { ledger with actor }

def note (ledger : Ledger τ) (deed : Deed) : Ledger τ :=
  { ledger with deeds := ledger.deeds ++ [(ledger.actor, deed)] }

def deedsOf (ledger : Ledger τ) (actor : Nat) : List Deed :=
  (ledger.deeds.filter fun entry => entry.1 = actor).map Prod.snd

/-- Opens a scope and gives it the next number. -/
def create (create : τ → Opening σ × τ) (ledger : Ledger τ) :
    Opening (Numbered σ) × Ledger τ :=
  match create ledger.state with
  | (.opened scope, state) =>
    (.opened ⟨ledger.nextScope, scope⟩,
      { ledger with state, nextScope := ledger.nextScope + 1 }.note (.opened ledger.nextScope))
  | (.refused failure, state) => (.refused failure, { ledger with state })
  | (.panicked payload, state) => (.panicked payload, { ledger with state })

instance [Logbook τ] : Logbook (Ledger τ) where
  write ledger line := ledger.lift (Logbook.write · line)

instance [ServiceScope σ τ] : ServiceScope (Numbered σ) (Ledger τ) where
  resolveAny numbered type ledger :=
    let (resolution, scope, state) := ServiceScope.resolveAny numbered.scope type ledger.state
    (resolution, { numbered with scope },
      { ledger with state }.note (.resolved numbered.number))
  dispose numbered ledger :=
    let (panic, state) := ServiceScope.dispose numbered.scope ledger.state
    (panic, { ledger with state }.note (.disposed numbered.number))

end Ledger

namespace Crew

variable {σ τ : Type}

def Turn.watched : Turn τ → Turn (Ledger τ)
  | .start => .start
  | .act effect => .act fun ledger => (ledger.lift effect).note .acted
  | .finish ending => .finish ending
  | .abort offered => .abort offered

def Move.watched : Move τ → List (Move (Ledger τ))
  | .spawn item => [.spawn item]
  | .turn index next => [.other (Ledger.attend index), .turn index next.watched]
  | .other effect => [.other (Ledger.lift effect)]

section

variable [Logbook τ] [ServiceScope σ τ]

/-- What becomes of an idle crew when its scopes are watched. -/
def watch (create : τ → Opening σ × τ) (state : τ) (moves : List (Move τ)) :
    Crew (Numbered σ) (Ledger τ) :=
  run (Ledger.create create) (idle (.blank state)) (moves.flatMap Move.watched)

end

/-! ## Being watched changes nothing -/

def eraseGuard (guard : ScopeGuard (Numbered σ)) : ScopeGuard σ :=
  ⟨guard.scope.map Numbered.scope⟩

def Phase.erase : Phase (Numbered σ) → Phase σ
  | .fresh => .fresh
  | .acting guard dependency => .acting (guard.map eraseGuard) dependency
  | .ended conclusion => .ended conclusion

def Member.erase (member : Member (Numbered σ)) : Member σ := ⟨member.item, member.phase.erase⟩

/-- The crew without the record and the numbers. -/
def erase (watched : Crew (Numbered σ) (Ledger τ)) : Crew σ τ :=
  ⟨watched.members.map Member.erase, watched.state.state⟩

def Unnumbered (numbered : Numbered σ) (scope : σ) : Prop := numbered.scope = scope

def Unrecorded (ledger : Ledger τ) (state : τ) : Prop := ledger.state = state

theorem unnumbered_iff (guard : ScopeGuard (Numbered σ)) (other : ScopeGuard σ) :
    guard.Alike Unnumbered other ↔ eraseGuard guard = other := by
  rcases guard with ⟨_ | numbered⟩ <;> rcases other with ⟨_ | scope⟩ <;>
    simp [ScopeGuard.Alike, eraseGuard, Unnumbered]

theorem guards_erase (guard : Option (ScopeGuard (Numbered σ))) :
    Option.Rel (ScopeGuard.Alike Unnumbered) guard (guard.map eraseGuard) := by
  cases guard with
  | none => exact .none
  | some guard => exact .some ((unnumbered_iff guard _).mpr rfl)

theorem ofStart_erase {start : Start (Numbered σ)} {other : Start σ}
    (starts : start.Alike Eq Unnumbered other) :
    (Phase.ofStart start).erase = Phase.ofStart other := by
  cases starts with
  | ended conclusion => rfl
  | @acting guard other held held' guards dependency =>
    have same : held = held' := by
      cases dependency with
      | none => rfl
      | some same => rw [same]
    have guards : guard.map eraseGuard = other := by
      cases guards with
      | none => rfl
      | some guards => exact congrArg some ((unnumbered_iff _ _).mp guards)
    simp only [Phase.ofStart, Phase.erase, same, guards]

theorem create_unnumbered (create : τ → Opening σ × τ) {ledger : Ledger τ} {state : τ}
    (same : Unrecorded ledger state) :
    Opening.Alike Unnumbered (ledger.create create).1 (create state).1 ∧
      Unrecorded (ledger.create create).2 (create state).2 := by
  subst same
  unfold Ledger.create
  rcases create ledger.state with ⟨_ | _ | _, state⟩
  case opened scope => exact ⟨.opened rfl, rfl⟩
  case refused failure => exact ⟨.refused failure, rfl⟩
  case panicked payload => exact ⟨.panicked payload, rfl⟩

section

variable [Logbook τ] [ServiceScope σ τ]

theorem likeness_unnumbered :
    Likeness Eq (Unnumbered : Numbered σ → σ → Prop) (Unrecorded : Ledger τ → τ → Prop) where
  type := by
    rintro held other rfl
    rfl
  write := by
    rintro ledger state line rfl
    rfl
  resolveAny := by
    rintro numbered scope ledger state type rfl rfl
    refine ⟨?_, rfl, rfl⟩
    show Resolution.Alike Eq (ServiceScope.resolveAny numbered.scope type ledger.state).1 _
    cases (ServiceScope.resolveAny numbered.scope type ledger.state).1 with
    | resolved held => exact .resolved rfl
    | failed failure => exact .failed failure
    | panicked payload stack => exact .panicked payload stack
  dispose := by
    rintro numbered scope ledger state rfl rfl
    exact ⟨rfl, rfl⟩

theorem take_erase (create : τ → Opening σ × τ) (item : Item) (phase : Phase (Numbered σ))
    (turn : Turn τ) (ledger : Ledger τ) :
    (phase.take item (Ledger.create create) turn.watched ledger).1.erase =
        (phase.erase.take item create turn ledger.state).1 ∧
      (phase.take item (Ledger.create create) turn.watched ledger).2.state =
        (phase.erase.take item create turn ledger.state).2 := by
  have likeness :
      Likeness Eq (Unnumbered : Numbered σ → σ → Prop) (Unrecorded : Ledger τ → τ → Prop) :=
    likeness_unnumbered
  have same : Unrecorded ledger ledger.state := rfl
  cases phase with
  | fresh =>
    cases turn with
    | start =>
      obtain ⟨starts, rest⟩ := likeness.start item (create_unnumbered create) same
      exact ⟨ofStart_erase starts, rest⟩
    | abort offered =>
      obtain ⟨conclusions, rest⟩ := likeness.abort item none .none same
      exact ⟨congrArg Phase.ended conclusions, rest⟩
    | act effect => exact ⟨rfl, rfl⟩
    | finish ending => exact ⟨rfl, rfl⟩
  | acting guard dependency =>
    cases turn with
    | start => exact ⟨rfl, rfl⟩
    | act effect => exact ⟨rfl, rfl⟩
    | finish ending =>
      obtain ⟨conclusions, rest⟩ := likeness.finish item ending (guards_erase guard) same
      exact ⟨congrArg Phase.ended conclusions, rest⟩
    | abort offered =>
      obtain ⟨conclusions, rest⟩ := likeness.abort item offered (guards_erase guard) same
      exact ⟨congrArg Phase.ended conclusions, rest⟩
  | ended conclusion => cases turn <;> exact ⟨rfl, rfl⟩

theorem step_erase (create : τ → Opening σ × τ) (watched : Crew (Numbered σ) (Ledger τ))
    (move : Move τ) :
    (watched.run (Ledger.create create) move.watched).erase = watched.erase.step create move := by
  cases move with
  | spawn item => simp [Move.watched, run, step, erase, Member.erase, Phase.erase]
  | other effect => rfl
  | turn index next =>
    simp only [Move.watched, run, List.foldl_cons, List.foldl_nil, step, erase, List.getElem?_map]
    cases watched.members[index]? with
    | none => rfl
    | some member =>
      obtain ⟨phases, states⟩ := take_erase create member.item member.phase next
        (watched.state.attend index)
      simp only [Option.map_some, Crew.mk.injEq]
      refine ⟨?_, states⟩
      rw [List.map_set, Member.erase, phases]
      rfl

theorem run_erase (create : τ → Opening σ × τ) (watched : Crew (Numbered σ) (Ledger τ))
    (moves : List (Move τ)) :
    (watched.run (Ledger.create create) (moves.flatMap Move.watched)).erase =
      watched.erase.run create moves := by
  induction moves generalizing watched with
  | nil => rfl
  | cons move moves inductionHypothesis =>
    rw [List.flatMap_cons, run, List.foldl_append]
    rw [← run, ← run, inductionHypothesis, step_erase]
    rfl

theorem watch_erase (create : τ → Opening σ × τ) (state : τ) (moves : List (Move τ)) :
    (watch create state moves).erase = (idle state).run create moves :=
  run_erase create (idle (.blank state)) moves

end

end Crew

end WorkHost
