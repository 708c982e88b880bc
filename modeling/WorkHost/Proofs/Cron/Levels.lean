import Mathlib.Data.List.Basic

/-!
Contract: searching through values, and below each of them.

A search goes through ascending values and takes the first below which a finer search finds
something. It may start with a bound that holds below the first value only. If the finer
search finds what comes first below each value, the search finds what comes first of all
(`Level.searchFrom_firstOf`).
-/

namespace WorkHost.Cron

/-- The result is the candidate at which the clock shows least, or there is no candidate. -/
def FirstOf {α : Type} (candidates : α → Prop) (clock : α → Int) : Option α → Prop
  | some found => candidates found ∧ ∀ other, candidates other → clock found ≤ clock other
  | none => ∀ other, ¬ candidates other

theorem FirstOf.shift {α : Type} {candidates others : α → Prop} {clock clock' : α → Int}
    {result : Option α} (first : FirstOf candidates clock result)
    (same : ∀ x, candidates x ↔ others x) (base : Int)
    (shifted : ∀ x, clock' x = base + clock x) : FirstOf others clock' result := by
  cases result with
  | none => exact fun other isOther => first other ((same other).mpr isOther)
  | some found =>
    refine ⟨(same found).mp first.1, ?_⟩
    intro other isOther
    have least := first.2 other ((same other).mpr isOther)
    rw [shifted, shifted]
    omega

theorem FirstOf.congr {α : Type} {candidates others : α → Prop} {clock : α → Int}
    {result : Option α} (first : FirstOf candidates clock result)
    (same : ∀ x, candidates x ↔ others x) : FirstOf others clock result :=
  first.shift same 0 fun _ => (Int.zero_add _).symm

theorem FirstOf.map {α β : Type} {candidates : α → Prop} {others : β → Prop} {clock : α → Int}
    {clock' : β → Int} {result : Option α} (first : FirstOf candidates clock result) (f : α → β)
    (sound : ∀ x, candidates x → others (f x))
    (complete : ∀ y, others y → ∃ x, candidates x ∧ f x = y)
    (same : ∀ x, clock' (f x) = clock x) : FirstOf others clock' (result.map f) := by
  cases result with
  | none =>
    intro y isOther
    obtain ⟨x, isCandidate, -⟩ := complete y isOther
    exact first x isCandidate
  | some found =>
    refine ⟨sound found first.1, ?_⟩
    intro y isOther
    obtain ⟨x, isCandidate, rfl⟩ := complete y isOther
    rw [same, same]
    exact first.2 x isCandidate

variable {α σ : Type}

/-- The first value below which something is found, with what is found. -/
def firstWithin (search : Nat → σ → Option α × σ) : List Nat → σ → Option (Nat × α) × σ
  | [], state => (none, state)
  | value :: rest, state =>
    match search value state with
    | (some found, state) => (some (value, found), state)
    | (none, state) => firstWithin search rest state

/-- The same from a value on; the state is reset unless that value is among them. -/
def searchFrom (search : Nat → σ → Option α × σ) (reset : σ → σ) (values : List Nat)
    (start : Nat) (state : σ) : Option (Nat × α) × σ :=
  firstWithin search (values.filter (start ≤ ·))
    (if values.contains start then state else reset state)

section States

variable {search : Nat → σ → Option α × σ} {reset : σ → σ} {keeps leaves : σ → Prop}

theorem firstWithin_keeps (stays : ∀ value {state}, keeps state → keeps (search value state).2)
    (values : List Nat) {state : σ} (holds : keeps state) :
    keeps (firstWithin search values state).2 := by
  induction values generalizing state with
  | nil => exact holds
  | cons value rest inductionHypothesis =>
    have later := stays value holds
    simp only [firstWithin]
    generalize search value state = answer at later ⊢
    obtain ⟨_ | x, left⟩ := answer
    · exact inductionHypothesis later
    · exact later

/-- What holds after every finer search that finds something holds after the search. -/
theorem firstWithin_leaves (stays : ∀ value {state}, keeps state → keeps (search value state).2)
    (found : ∀ value {state}, keeps state → (search value state).1.isSome →
      leaves (search value state).2)
    (values : List Nat) {state : σ} (holds : keeps state)
    (finds : (firstWithin search values state).1.isSome) :
    leaves (firstWithin search values state).2 := by
  induction values generalizing state with
  | nil => cases finds
  | cons value rest inductionHypothesis =>
    have later := stays value holds
    have last := found value holds
    simp only [firstWithin] at finds ⊢
    generalize search value state = answer at later last finds ⊢
    obtain ⟨_ | x, left⟩ := answer
    · exact inductionHypothesis later finds
    · exact last rfl

/-- What holds after every finer search that finds nothing holds when all have found nothing. -/
theorem firstWithin_exhausted
    (lost : ∀ value {state}, (search value state).1 = none → leaves (search value state).2)
    (values : List Nat) {state : σ} (holds : values = [] → leaves state)
    (nothing : (firstWithin search values state).1 = none) :
    leaves (firstWithin search values state).2 := by
  induction values generalizing state with
  | nil => exact holds rfl
  | cons value rest inductionHypothesis =>
    have last := @lost value state
    simp only [firstWithin] at nothing ⊢
    generalize search value state = answer at last nothing ⊢
    obtain ⟨_ | x, left⟩ := answer
    · exact inductionHypothesis (fun _ => last rfl) nothing
    · cases nothing

/-- Either there are values to go through, or the start is none of them. -/
theorem searchFrom_exhausted (resets : ∀ state, leaves (reset state))
    (lost : ∀ value {state}, (search value state).1 = none → leaves (search value state).2)
    {values : List Nat} {start : Nat} {state : σ}
    (nothing : (searchFrom search reset values start state).1 = none) :
    leaves (searchFrom search reset values start state).2 := by
  refine firstWithin_exhausted lost _ ?_ nothing
  intro empty
  have missing : ¬ values.contains start = true := by
    intro contains
    have reached := List.filter_eq_nil_iff.mp empty start (by simpa using contains)
    simp at reached
  rw [if_neg missing]
  exact resets state

end States

/-- What the finer search has to do below each of the values: with a fresh state it finds
what comes first, and it leaves a fresh state where it finds nothing. -/
structure Level (search : Nat → σ → Option α × σ) (values : List Nat)
    (fires : Nat → α → Prop) (clock : Nat → α → Int) (fresh : σ → Prop) : Prop where
  increasing : values.Pairwise (· < ·)
  apart {value later : Nat} {x y : α} : value ∈ values → later ∈ values → value < later →
    fires value x → fires later y → clock value x < clock later y
  sound {value : Nat} {state : σ} {x : α} : value ∈ values →
    (search value state).1 = some x → fires value x
  whole {value : Nat} {state : σ} : value ∈ values → fresh state →
    FirstOf (fires value) (clock value) (search value state).1
  afresh {value : Nat} {state : σ} : (search value state).1 = none →
    fresh (search value state).2

namespace Level

variable {search : Nat → σ → Option α × σ} {values : List Nat} {fires : Nat → α → Prop}
  {clock : Nat → α → Int} {fresh : σ → Prop}

theorem filter (level : Level search values fires clock fresh) (keep : Nat → Bool) :
    Level search (values.filter keep) fires clock fresh where
  increasing := level.increasing.filter keep
  apart isValue isLater := level.apart (List.mem_filter.mp isValue).1 (List.mem_filter.mp isLater).1
  sound isValue := level.sound (List.mem_filter.mp isValue).1
  whole isValue := level.whole (List.mem_filter.mp isValue).1
  afresh := level.afresh

theorem tail {value : Nat} (level : Level search (value :: values) fires clock fresh) :
    Level search values fires clock fresh where
  increasing := (List.pairwise_cons.mp level.increasing).2
  apart isValue isLater :=
    level.apart (List.mem_cons_of_mem _ isValue) (List.mem_cons_of_mem _ isLater)
  sound isValue := level.sound (List.mem_cons_of_mem _ isValue)
  whole isValue := level.whole (List.mem_cons_of_mem _ isValue)
  afresh := level.afresh

theorem firstWithin_sound (level : Level search values fires clock fresh) {state : σ}
    {found : Nat × α} (finds : (firstWithin search values state).1 = some found) :
    found.1 ∈ values ∧ fires found.1 found.2 := by
  induction values generalizing state with
  | nil => cases finds
  | cons value rest inductionHypothesis =>
    cases below : search value state with
    | mk answer left =>
    cases answer with
    | some x =>
      simp only [firstWithin, below] at finds
      cases finds
      exact ⟨List.mem_cons_self, level.sound List.mem_cons_self (congrArg Prod.fst below)⟩
    | none =>
      simp only [firstWithin, below] at finds
      exact (inductionHypothesis level.tail finds).imp_left (List.mem_cons_of_mem _)

/-- The search below the first value may be bound to what is allowed there. -/
theorem firstOf_cons {value : Nat} {rest : List Nat}
    (level : Level search (value :: rest) fires clock fresh) {state : σ} {allowed : α → Prop}
    (first : FirstOf (fun x => fires value x ∧ allowed x) (clock value) (search value state).1)
    (later : ∀ {left : σ}, fresh left →
      FirstOf (fun found : Nat × α => found.1 ∈ rest ∧ fires found.1 found.2)
        (fun found => clock found.1 found.2) (firstWithin search rest left).1) :
    FirstOf (fun found : Nat × α => found.1 ∈ value :: rest ∧ fires found.1 found.2 ∧
        (found.1 = value → allowed found.2))
      (fun found => clock found.1 found.2) (firstWithin search (value :: rest) state).1 := by
  have increasing := (List.pairwise_cons.mp level.increasing).1
  cases below : search value state with
  | mk answer left =>
  rw [below] at first
  cases answer with
  | some x =>
    simp only [firstWithin, below]
    obtain ⟨⟨isFiring, isAllowed⟩, least⟩ := first
    refine ⟨⟨List.mem_cons_self, isFiring, fun _ => isAllowed⟩, ?_⟩
    rintro ⟨other, y⟩ ⟨isValue, otherFires, otherAllowed⟩
    rcases List.mem_cons.mp isValue with rfl | isLater
    · exact least y ⟨otherFires, otherAllowed rfl⟩
    · exact Int.le_of_lt (level.apart List.mem_cons_self isValue (increasing other isLater)
        isFiring otherFires)
  | none =>
    have skipped : firstWithin search (value :: rest) state = firstWithin search rest left := by
      simp only [firstWithin, below]
    have isFresh : fresh left := by
      have leaves := level.afresh (congrArg Prod.fst below)
      rwa [below] at leaves
    rw [skipped]
    refine (later isFresh).congr ?_
    rintro ⟨other, y⟩
    constructor
    · rintro ⟨isLater, otherFires⟩
      refine ⟨List.mem_cons_of_mem _ isLater, otherFires, ?_⟩
      intro same
      exact absurd (increasing other isLater) (same ▸ Nat.lt_irrefl value)
    · rintro ⟨isValue, otherFires, otherAllowed⟩
      rcases List.mem_cons.mp isValue with rfl | isLater
      · exact absurd ⟨otherFires, otherAllowed rfl⟩ (first y)
      · exact ⟨isLater, otherFires⟩

theorem firstWithin_firstOf (level : Level search values fires clock fresh) {state : σ}
    (isFresh : fresh state) :
    FirstOf (fun found : Nat × α => found.1 ∈ values ∧ fires found.1 found.2)
      (fun found => clock found.1 found.2) (firstWithin search values state).1 := by
  induction values generalizing state with
  | nil =>
    rintro found ⟨isValue, -⟩
    cases isValue
  | cons value rest inductionHypothesis =>
    have below : FirstOf (fun x => fires value x ∧ True) (clock value) (search value state).1 :=
      (level.whole List.mem_cons_self isFresh).congr fun x => (and_true _).symm.to_iff
    refine (level.firstOf_cons below (inductionHypothesis level.tail)).congr ?_
    intro found
    simp

theorem filter_le_of_mem {start : Nat} (increasing : values.Pairwise (· < ·))
    (isValue : start ∈ values) :
    values.filter (start ≤ ·) = start :: values.filter (start < ·) := by
  induction values with
  | nil => cases isValue
  | cons value rest inductionHypothesis =>
    obtain ⟨after, increasing⟩ := List.pairwise_cons.mp increasing
    rcases List.mem_cons.mp isValue with rfl | isLater
    · have same : rest.filter (start ≤ ·) = rest.filter (start < ·) := by
        apply List.filter_congr
        intro later isLater
        have bound := after later isLater
        simp only [decide_eq_decide]
        omega
      simp [same]
    · have before := after start isLater
      have unreached : ¬ start ≤ value := by omega
      have unpassed : ¬ start < value := by omega
      simpa [unreached, unpassed] using inductionHypothesis increasing isLater

/-- The search from a value on finds what comes first from `low` on. -/
theorem searchFrom_firstOf (level : Level search values fires clock fresh) {reset : σ → σ}
    {start : Nat} {state : σ} (low : Int) (resets : fresh (reset state))
    (first : start ∈ values → FirstOf (fun x => fires start x ∧ low ≤ clock start x)
      (clock start) (search start state).1)
    (above : ∀ value ∈ values, start < value → ∀ x, fires value x → low ≤ clock value x)
    (below : ∀ value ∈ values, value < start → ∀ x, fires value x → clock value x < low) :
    FirstOf (fun found : Nat × α => found.1 ∈ values ∧ fires found.1 found.2 ∧
        low ≤ clock found.1 found.2)
      (fun found => clock found.1 found.2) (searchFrom search reset values start state).1 := by
  have inTime : ∀ {value : Nat} {x : α}, value ∈ values → fires value x →
      low ≤ clock value x → start ≤ value := by
    intro value x isValue isFiring bound
    by_contra early
    have before := below value isValue (by omega) x isFiring
    omega
  unfold searchFrom
  by_cases isStart : start ∈ values
  · have contains : values.contains start = true := by simpa using isStart
    have split := filter_le_of_mem level.increasing isStart
    have reached := level.filter (start ≤ ·)
    rw [split] at reached
    rw [if_pos contains, split]
    refine (reached.firstOf_cons (first isStart) reached.tail.firstWithin_firstOf).congr ?_
    rintro ⟨value, x⟩
    rw [← split, List.mem_filter, decide_eq_true_iff]
    constructor
    · rintro ⟨⟨isValue, reached⟩, isFiring, bound⟩
      refine ⟨isValue, isFiring, ?_⟩
      rcases Nat.lt_or_eq_of_le reached with later | rfl
      · exact above value isValue later x isFiring
      · exact bound rfl
    · rintro ⟨isValue, isFiring, bound⟩
      exact ⟨⟨isValue, inTime isValue isFiring bound⟩, isFiring, fun same => same ▸ bound⟩
  · have missing : values.contains start = false := by simpa using isStart
    rw [missing, if_neg Bool.false_ne_true]
    refine ((level.filter (start ≤ ·)).firstWithin_firstOf resets).congr ?_
    rintro ⟨value, x⟩
    rw [List.mem_filter, decide_eq_true_iff]
    constructor
    · rintro ⟨⟨isValue, reached⟩, isFiring⟩
      have other : start ≠ value := fun same => isStart (same ▸ isValue)
      exact ⟨isValue, isFiring, above value isValue (by omega) x isFiring⟩
    · rintro ⟨isValue, isFiring, bound⟩
      exact ⟨⟨isValue, inTime isValue isFiring bound⟩, isFiring⟩

end Level

end WorkHost.Cron
