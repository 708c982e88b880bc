import WorkHost.Proofs.Work.Trail
import WorkHost.Scope.Factory

/-!
Contract: the scope of every item is disposed once, after the last step of its action.

The record of a watched crew holds a trail of each of its tasks, and no scope occurs in
two of them (`Crew.Recorded`). Every move of the crew keeps it so. A task that has ended
has therefore released what it opened, whatever it and the others did
(`scope_disposed_once`).
-/

namespace WorkHost

namespace Crew

variable {σ τ : Type}

/-! ## The trails of a crew -/

/-- The record of a crew: a trail for each of its tasks, with scopes of its own. -/
structure Recorded (crew : Crew (Numbered σ) (Ledger τ)) : Prop where
  trail (index : Nat) (member : Member (Numbered σ)) : crew.members[index]? = some member →
    Trail member.item member.phase (crew.state.deedsOf index)
  outside (index : Nat) : crew.members[index]? = none → crew.state.deedsOf index = []
  below (index scope : Nat) : scope ∈ Deed.scopes (crew.state.deedsOf index) →
    scope < crew.state.nextScope
  apart (index other scope : Nat) : scope ∈ Deed.scopes (crew.state.deedsOf index) →
    scope ∈ Deed.scopes (crew.state.deedsOf other) → index = other

theorem deedsOf_actor {before after : Ledger τ} {deeds added : List Deed}
    (later : Extends deeds added before after) :
    after.deedsOf before.actor = before.deedsOf before.actor ++ added := by
  simp [Ledger.deedsOf, later.recorded, List.filter_map, Function.comp_def]

theorem deedsOf_other {before after : Ledger τ} {deeds added : List Deed}
    (later : Extends deeds added before after) {index : Nat} (other : index ≠ before.actor) :
    after.deedsOf index = before.deedsOf index := by
  simp [Ledger.deedsOf, later.recorded, List.filter_map, Function.comp_def, other.symm]

theorem idle_recorded (state : τ) : Recorded (idle (.blank state) : Crew (Numbered σ) (Ledger τ)) where
  trail := by
    intro index member isMember
    exact nomatch isMember
  outside := fun _ _ => rfl
  below := nofun
  apart := nofun

theorem Recorded.spawn {crew : Crew (Numbered σ) (Ledger τ)} (recorded : crew.Recorded)
    (item : Item) : Recorded { crew with members := crew.members ++ [⟨item, .fresh⟩] } where
  trail := by
    intro index member isMember
    rw [List.getElem?_append] at isMember
    split at isMember
    · exact recorded.trail index member isMember
    · rename_i beyond
      obtain rfl := List.mem_singleton.mp (List.mem_of_getElem? isMember)
      have nothing := recorded.outside index (List.getElem?_eq_none_iff.mpr (by omega))
      rw [nothing]
      exact .fresh
  outside := by
    intro index absent
    apply recorded.outside
    rw [List.getElem?_eq_none_iff, List.length_append] at absent
    rw [List.getElem?_eq_none_iff]
    omega
  below := recorded.below
  apart := recorded.apart

/-- One task continues its trail, with scopes that no other task has used. -/
theorem Recorded.turn {crew : Crew (Numbered σ) (Ledger τ)} (recorded : crew.Recorded)
    {member : Member (Numbered σ)} {index : Nat} (isMember : crew.members[index]? = some member)
    {phase : Phase (Numbered σ)} {after : Ledger τ}
    (continues : Continues member.item (crew.state.deedsOf index) (crew.state.attend index)
      (phase, after)) :
    Recorded ⟨crew.members.set index { member with phase }, after⟩ := by
  obtain ⟨added, trail, later⟩ := continues
  have grown : after.deedsOf index = crew.state.deedsOf index ++ added := deedsOf_actor later
  have kept : ∀ other, other ≠ index → after.deedsOf other = crew.state.deedsOf other :=
    fun other different => deedsOf_other later different
  have nextScope : crew.state.nextScope ≤ after.nextScope := later.nextScope
  -- A scope of the task after its turn is one of its own from before, or a new one.
  have own : ∀ scope ∈ Deed.scopes (after.deedsOf index),
      scope ∈ Deed.scopes (crew.state.deedsOf index) ∨
        crew.state.nextScope ≤ scope ∧ scope < after.nextScope := by
    intro scope used
    rw [grown, Deed.scopes_append, List.mem_append] at used
    rcases used with known | new
    · exact .inl known
    · exact later.own scope new
  constructor
  · intro other otherMember isOther
    by_cases same : other = index
    · subst same
      have inside : other < crew.members.length := (List.getElem?_eq_some_iff.mp isMember).1
      rw [List.getElem?_set_self inside] at isOther
      obtain rfl := Option.some.inj isOther
      rw [grown]
      exact trail
    · rw [List.getElem?_set_ne (Ne.symm same)] at isOther
      rw [kept other same]
      exact recorded.trail other otherMember isOther
  · intro other absent
    rw [List.getElem?_eq_none_iff, List.length_set, ← List.getElem?_eq_none_iff] at absent
    have different : other ≠ index := by
      rintro rfl
      rw [isMember] at absent
      contradiction
    rw [kept other different]
    exact recorded.outside other absent
  · intro other scope used
    by_cases same : other = index
    · subst same
      rcases own scope used with known | new
      · exact Nat.lt_of_lt_of_le (recorded.below other scope known) nextScope
      · exact new.2
    · rw [kept other same] at used
      exact Nat.lt_of_lt_of_le (recorded.below other scope used) nextScope
  · have alone : ∀ other scope, other ≠ index → scope ∈ Deed.scopes (after.deedsOf index) →
        scope ∉ Deed.scopes (after.deedsOf other) := by
      intro other scope different mine theirs
      rw [kept other different] at theirs
      rcases own scope mine with known | new
      · exact different (recorded.apart other index scope theirs known)
      · have below := recorded.below other scope theirs
        omega
    intro first second scope firstUses secondUses
    by_cases firstActs : first = index <;> by_cases secondActs : second = index
    · rw [firstActs, secondActs]
    · subst firstActs
      exact absurd secondUses (alone second scope secondActs firstUses)
    · subst secondActs
      exact absurd firstUses (alone first scope firstActs secondUses)
    · rw [kept first firstActs] at firstUses
      rw [kept second secondActs] at secondUses
      exact recorded.apart first second scope firstUses secondUses

section

variable [Logbook τ] [ServiceScope σ τ]

theorem step_recorded (create : τ → Opening σ × τ) {crew : Crew (Numbered σ) (Ledger τ)}
    (recorded : crew.Recorded) (move : Move τ) :
    (crew.run (Ledger.create create) move.watched).Recorded := by
  cases move with
  | spawn item => exact recorded.spawn item
  | other effect => exact ⟨recorded.trail, recorded.outside, recorded.below, recorded.apart⟩
  | turn index next =>
    have attended : Recorded { crew with state := crew.state.attend index } :=
      ⟨recorded.trail, recorded.outside, recorded.below, recorded.apart⟩
    simp only [Move.watched, run, List.foldl_cons, List.foldl_nil, step]
    cases isMember : crew.members[index]? with
    | none => exact attended
    | some member =>
      exact recorded.turn isMember
        (take_continues create member.item (recorded.trail index member isMember) next _)

theorem run_recorded (create : τ → Opening σ × τ) {crew : Crew (Numbered σ) (Ledger τ)}
    (recorded : crew.Recorded) (moves : List (Move τ)) :
    (crew.run (Ledger.create create) (moves.flatMap Move.watched)).Recorded := by
  induction moves generalizing crew with
  | nil => exact recorded
  | cons move moves inductionHypothesis =>
    rw [List.flatMap_cons, run, List.foldl_append]
    exact inductionHypothesis (step_recorded create recorded move)

theorem watch_recorded (create : τ → Opening σ × τ) (state : τ) (moves : List (Move τ)) :
    (watch create state moves).Recorded :=
  run_recorded create (idle_recorded state) moves

end

theorem mem_of_erase {watched : Crew (Numbered σ) (Ledger τ)} {index : Nat} {item : Item}
    {phase : Phase σ} (isMember : watched.erase.members[index]? = some ⟨item, phase⟩) :
    ∃ numbered, watched.members[index]? = some ⟨item, numbered⟩ ∧ numbered.erase = phase := by
  rw [erase, List.getElem?_map] at isMember
  obtain ⟨member, isWatched, same⟩ := Option.map_eq_some_iff.mp isMember
  obtain ⟨rfl, rfl⟩ := Member.mk.inj same
  exact ⟨member.phase, isWatched, rfl⟩

/-- Whatever happens to the tasks of a crew, each that has ended without the end of the
process has either never opened a scope, or it opened one and disposed it once, as its last
deed of all. No scope is touched by two tasks, and an unscoped item opens none. -/
theorem scope_disposed_once [Logbook τ] [ServiceScope σ τ] (create : τ → Opening σ × τ)
    (state : τ) (moves : List (Move τ)) :
    let crew := (idle state).run create moves
    let watched := watch create state moves
    let deeds := watched.state.deedsOf
    watched.erase = crew ∧
      (∀ index item conclusion, crew.members[index]? = some ⟨item, .ended conclusion⟩ →
        conclusion ≠ .crashed →
          (∃ steps, deeds index = Deed.acting steps) ∨
            ∃ scope steps, deeds index = Deed.holding scope steps ++ [.disposed scope]) ∧
      (∀ index, (deeds index).countP Deed.isOpening ≤ 1 ∧
        (deeds index).countP Deed.isDisposal ≤ 1) ∧
      (∀ index other scope, scope ∈ Deed.scopes (deeds index) →
        scope ∈ Deed.scopes (deeds other) → index = other) ∧
      ∀ index item phase, crew.members[index]? = some ⟨item, phase⟩ →
        item.dependency = none → ∀ deed ∈ deeds index, deed = .acted := by
  intro crew watched deeds
  have erased : watched.erase = crew := watch_erase create state moves
  have recorded : watched.Recorded := watch_recorded create state moves
  refine ⟨erased, ?_, ?_, recorded.apart, ?_⟩
  · intro index item conclusion isMember alive
    rw [← erased] at isMember
    obtain ⟨phase, isWatched, ended⟩ := mem_of_erase isMember
    exact (recorded.trail index _ isWatched).of_ended ended alive
  · intro index
    cases isMember : watched.members[index]? with
    | none =>
      have nothing : deeds index = [] := recorded.outside index isMember
      rw [nothing]
      exact ⟨Nat.zero_le 1, Nat.zero_le 1⟩
    | some member => exact (recorded.trail index member isMember).count_le
  · intro index item phase isMember unscoped
    rw [← erased] at isMember
    obtain ⟨phase, isWatched, -⟩ := mem_of_erase isMember
    exact (recorded.trail index _ isWatched).acted_of_unscoped unscoped

example :
    let service : Service := ⟨⟨"Repo", "R"⟩, [], .logged⟩
    let item : Item := .mk "job" (some service.type) [] .panicking none
    let factory : ScopeFactory := .container ⟨[service]⟩
    let moves := [.spawn item, .turn 0 .start, .turn 0 (.act id), .turn 0 (.abort none)]
    (watch factory.create (Journal.ofSerial 0) moves).state.deedsOf 0 =
      [.opened 0, .resolved 0, .acted, .disposed 0] := by
  rfl

end Crew

end WorkHost
