import WorkHost.Proofs.Host.Protocol

/-!
Contract: the grace period of the item in flight.

An item that ends before the grace period is over keeps its own result, and only one
that has not ended by then is aborted (`Life.Judged`). The clock and the worker are
apart: where the worker looks in time (`Punctual`), an item that overruns is always
aborted (`InTime.abortedIfLate`). The outcome of the run says whether one was.
-/

namespace WorkHost

/-- What an item may count on, given when draining began. -/
structure Life.Judged {α : Type} (life : Life α) (graceMs : Nat)
    (published : List (Nat × WorkerState)) : Prop where
  own : ∀ result, life.verdict = some result → result ≠ .aborted →
    ∃ time, life.ending = some (time, result)
  inTime : ∀ start time result, (start, .draining) ∈ published →
    life.ending = some (time, result) → time < start + graceMs →
      result ≠ .aborted ∧ ∀ verdict, life.verdict = some verdict → verdict = result
  overran : life.verdict = some .aborted →
    ∃ start, (start, .draining) ∈ published ∧
      ∀ time result, life.ending = some (time, result) → start + graceMs ≤ time

/-- An item that overruns and has got its result was aborted. -/
def Life.AbortedIfLate {α : Type} (life : Life α) (graceMs : Nat)
    (published : List (Nat × WorkerState)) : Prop :=
  ∀ start, (start, .draining) ∈ published → life.verdict.isSome = true →
    (∀ time result, life.ending = some (time, result) → start + graceMs < time) →
      life.verdict = some .aborted

/-- Draining begins at one time only. -/
def OneStart (published : List (Nat × WorkerState)) : Prop :=
  ∀ first second, (first, .draining) ∈ published → (second, .draining) ∈ published →
    first = second

theorem Life.Faithful.isJudged {α : Type} {life : Life α} {now graceMs : Nat}
    {published : List (Nat × WorkerState)} (faithful : life.Faithful now graceMs published)
    (oneStart : OneStart published) : life.Judged graceMs published where
  own result verdict notAborted := by
    rcases faithful.judged result verdict with ⟨_, ending⟩ | ⟨_, aborted⟩
    · exact ending
    · exact absurd aborted notAborted
  inTime start time result drains ending early := by
    have uncut : life.cutAt = none := by
      cases cutAt : life.cutAt with
      | none => rfl
      | some cut =>
        obtain ⟨other, otherDrains, late⟩ := faithful.overran cut cutAt
        have first := faithful.cutFirst cut time result cutAt ending
        rw [oneStart other start otherDrains drains] at late
        omega
    constructor
    · rintro rfl
      simpa [uncut] using faithful.aborted time ending
    · intro verdict given
      rcases faithful.judged verdict given with ⟨_, other, same⟩ | ⟨cut, _⟩
      · rw [ending] at same
        cases same
        rfl
      · simp [uncut] at cut
  overran verdict := by
    obtain ⟨time, cutAt⟩ := faithful.cut_of_aborted (faithful.judged _ verdict)
    obtain ⟨start, drains, late⟩ := faithful.overran time cutAt
    refine ⟨start, drains, fun other result ending => ?_⟩
    exact Nat.le_trans late (faithful.cutFirst time other result cutAt ending)

/-- Only the report of a result touches the outcome. -/
theorem Advance.outcome {β : Type} [Queued β] {view : Surroundings} {worker : Worker β}
    {channel : Channel β} {stride : Stride β} (advance : Advance view worker channel stride)
    (elsewhere : ∀ flight result, worker.phase ≠ .reporting flight result) :
    stride.worker.outcome = worker.outcome := by
  cases advance with
  | report phase => exact absurd phase (elsewhere _ _)
  | _ => rfl

theorem Advance.outcome_of_report {β : Type} [Queued β] {view : Surroundings}
    {worker : Worker β} {channel : Channel β} {stride : Stride β} {flight : Flight}
    {result : ExecutionResult} (advance : Advance view worker channel stride)
    (phase : worker.phase = .reporting flight result) :
    stride.worker.outcome = if result = .aborted then .forced else worker.outcome := by
  cases advance with
  | report reporting =>
    rw [phase] at reporting
    cases reporting
    rfl
  | _ => simp_all

/-- When the grace period of the item in flight ends. -/
def Phase.dueAt? {β : Type} : Phase β → Option Nat
  | .draining _ deadline => some deadline
  | _ => none

namespace Lives

variable {α : Type}

def HasAborted (lives : Lives α) : Prop :=
  ∃ life ∈ lives.toList, life.verdict = some .aborted

theorem hasAborted_begin (lives : Lives α) (call : Call α) :
    HasAborted ⟨lives.toList, some (.begin call)⟩ ↔ lives.HasAborted := by
  constructor
  · rintro ⟨life, member, aborted⟩
    rcases List.mem_append.mp member with old | new
    · exact ⟨life, old, aborted⟩
    · rw [List.mem_singleton.mp new] at aborted
      cases aborted
  · rintro ⟨life, member, aborted⟩
    exact ⟨life, List.mem_append_left _ member, aborted⟩

/-- A change of the item in flight that leaves its result alone. -/
theorem hasAborted_update (lives : Lives α) {change : Life α → Life α}
    (keeps : ∀ life, (change life).verdict = life.verdict) :
    (lives.update change).HasAborted ↔ lives.HasAborted := by
  obtain ⟨past, current⟩ := lives
  cases current <;> simp [HasAborted, toList, update, or_and_right, exists_or, keeps]

theorem hasAborted_judge {lives : Lives α} {life : Life α} (current : lives.current = some life)
    (unjudged : life.verdict = none) (result : ExecutionResult) :
    (lives.update fun life => { life with verdict := some result }).HasAborted ↔
      result = .aborted ∨ lives.HasAborted := by
  obtain ⟨past, flying⟩ := lives
  cases current
  simp [HasAborted, toList, update, or_and_right, exists_or, unjudged, or_comm]

end Lives

namespace Interplay

variable {α : Type}

/-- The run is forced if an item was aborted. -/
def Blamed (state : Interplay α) : Prop :=
  state.host.worker.outcome = .forced ↔ state.record.lives.HasAborted

/-- Time does not pass the deadline of the item in flight before the worker has looked. -/
def OnTime (state : Interplay α) : Prop :=
  ∀ deadline ∈ state.host.worker.phase.dueAt?, state.now ≤ deadline

instance (state : Interplay α) : Decidable state.OnTime :=
  inferInstanceAs (Decidable (∀ deadline ∈ _, _))

/-- An item that was not told to abort has not overrun. -/
def InTime (state : Interplay α) : Prop :=
  ∀ life ∈ state.record.lives.toList, life.cutAt = none →
    ∀ start time result, (start, .draining) ∈ state.record.published →
      life.ending = some (time, result) → time ≤ start + state.host.graceMs

theorem create_blamed (config : QueueConfig) : (create config : Interplay α).Blamed := by
  constructor
  · intro forced
    cases forced
  · rintro ⟨life, member, _⟩
    cases member

theorem create_inTime (config : QueueConfig) : (create config : Interplay α).InTime := by
  intro life member
  cases member

variable [Queued α]

theorem Reached.oneStart {state : Interplay α} (reached : state.Reached) :
    OneStart state.record.published := by
  intro first second firstDrains secondDrains
  have apart : state.record.states.Nodup :=
    reached.announced.course.increasing.imp fun less same => by simp [same] at less
  have same := List.inj_on_of_nodup_map apart firstDrains secondDrains rfl
  exact congrArg Prod.fst same

theorem advance_blamed {state : Interplay α} {stride : Stride (Call α)} (tended : state.Tended)
    (advance : Advance state.view state.host.worker state.channel stride)
    (blamed : state.Blamed) : (state.advance stride).Blamed := by
  unfold Blamed at blamed ⊢
  rw [advance_worker]
  rcases advance_lives advance with ⟨call, phase, lives⟩ | ⟨flight, deadline, phase, _, _, lives⟩ |
    ⟨flight, result, phase, lives⟩ | ⟨elsewhere, lives⟩
  · rw [lives, advance.outcome (by simp [phase]), blamed, Lives.hasAborted_begin]
  · rw [lives, advance.outcome (by simp [phase]), blamed]
    exact (state.record.lives.hasAborted_update fun _ => by rfl).symm
  · have custody := tended.custody
    rw [phase] at custody
    obtain ⟨life, current, _, unjudged⟩ := custody
    rw [lives, advance.outcome_of_report phase, Lives.hasAborted_judge current unjudged, ← blamed]
    by_cases aborted : result = .aborted
    · simp [aborted]
    · simp [aborted]
  · rw [lives, advance.outcome elsewhere, blamed]

theorem blamed_invariant : Invariant (Blamed : Interplay α → Prop) where
  traffic _ _ _ blamed := blamed
  stop _ _ blamed := blamed
  conclude state result _ blamed := by
    unfold conclude
    split
    · exact blamed.trans (state.record.lives.hasAborted_update fun _ => by rfl).symm
    · exact blamed
  elapse _ _ _ blamed := blamed
  advance _ _ reached advance blamed := advance_blamed reached.tended advance blamed
  collapse _ _ _ _ _ blamed := blamed

theorem Reached.blamed {state : Interplay α} (reached : state.Reached) : state.Blamed :=
  blamed_invariant.reached create_blamed reached

/-- Before a request to stop nothing forces the run. -/
theorem Reached.graceful_of_calm {state : Interplay α} (reached : state.Reached)
    (calm : state.host.stopping = false) : state.host.worker.outcome = .graceful := by
  cases outcome : state.host.worker.outcome with
  | graceful => rfl
  | forced =>
    obtain ⟨life, member, aborted⟩ := reached.blamed.mp outcome
    have deserves := (reached.tended.faithful life member).judged _ aborted
    have draining := reached.draining_of_aborted member deserves
    have asked := reached.attentive.asked (reached.attentive.noticed draining)
    simp [calm] at asked

/-! ## Looking in time -/

/-- The worker looks in time throughout a run. -/
def Punctual (state : Interplay α) : List (Move α) → Prop
  | [] => state.OnTime
  | move :: rest => state.OnTime ∧ (state.step move).Punctual rest

instance decidePunctual (state : Interplay α) :
    (moves : List (Move α)) → Decidable (state.Punctual moves)
  | [] => inferInstanceAs (Decidable state.OnTime)
  | move :: rest =>
    have := decidePunctual (state.step move) rest
    inferInstanceAs (Decidable (_ ∧ _))

/-- As long as an item runs and is left alone, its grace period is not over. -/
theorem now_le_of_flying {state : Interplay α} (reached : state.Reached) (onTime : state.OnTime)
    {life : Life α} (current : state.record.lives.current = some life)
    (flying : life.ending = none) (uncut : life.cutAt = none) {start : Nat}
    (drains : (start, .draining) ∈ state.record.published) :
    state.now ≤ start + state.host.graceMs := by
  have undeserving : ∀ result, ¬ life.Deserves result := by
    rintro result (⟨_, time, ending⟩ | ⟨cut, _⟩)
    · simp [flying] at ending
    · simp [uncut] at cut
  have unsettled : ¬ ∀ life ∈ state.record.lives.current, life.verdict.isSome = true := by
    intro settled
    obtain ⟨result, verdict⟩ := Option.isSome_iff_exists.mp (settled life current)
    have member : life ∈ state.record.lives.toList :=
      List.mem_append_right _ (Option.mem_toList.mpr current)
    exact undeserving result ((reached.tended.faithful life member).judged result verdict)
  have drained : state.host.worker.state ≠ .running := by
    intro running
    have course := reached.announced.course
    rw [running] at course
    exact course.draining_not_mem (List.mem_map_of_mem drains)
  have custody := reached.tended.custody
  have lifecycle := reached.sound.lifecycle
  cases phase : state.host.worker.phase with
  | draining flight deadline =>
    obtain ⟨other, otherDrains, due⟩ := reached.tended.deadline flight deadline phase
    have intime := onTime deadline (by rw [phase]; rfl)
    rw [due, reached.oneStart other start otherDrains drains] at intime
    exact intime
  | aborting flight deadline =>
    rw [phase] at custody
    obtain ⟨other, same, cut, _⟩ := custody
    rw [current] at same
    cases same
    simp [uncut] at cut
  | reporting flight result =>
    rw [phase] at custody
    obtain ⟨other, same, deserves, _⟩ := custody
    rw [current] at same
    cases same
    exact absurd deserves (undeserving result)
  | executing flight =>
    simp only [Lifecycle, phase] at lifecycle
    exact absurd lifecycle.1 drained
  | closing waiting | announcing waiting =>
    cases waiting with
    | none =>
      rw [phase] at custody
      exact absurd custody unsettled
    | some flight =>
      simp only [Lifecycle, phase, WorkerState.Intact] at lifecycle
      exact absurd (by tauto) drained
  | _ =>
    rw [phase] at custody
    exact absurd custody unsettled

theorem advance_inTime {state : Interplay α} {stride : Stride (Call α)} (reached : state.Reached)
    (advance : Advance state.view state.host.worker state.channel stride)
    (inTime : state.InTime) : (state.advance stride).InTime := by
  have before : ∀ life ∈ state.record.lives.toList, life.cutAt = none →
      ∀ start time result, (start, .draining) ∈ (state.advance stride).record.published →
        life.ending = some (time, result) → time ≤ start + state.host.graceMs := by
    intro life member uncut start time result drains ending
    rcases List.mem_append.mp drains with old | new
    · exact inTime life member uncut start time result old ending
    · have ended := (reached.tended.faithful life member).ended time result ending
      rw [WorkerState.time_of_publication new]
      exact Nat.le_trans ended (Nat.le_add_right _ _)
  intro life member
  rcases advance_lives advance with ⟨call, phase, lives⟩ | ⟨flight, deadline, phase, _, _, lives⟩ |
    ⟨flight, result, phase, lives⟩ | ⟨_, lives⟩
  · rw [lives] at member
    rcases List.mem_append.mp member with old | new
    · exact before life old
    · rw [List.mem_singleton.mp new]
      intro _ start time result _ ending
      cases ending
  · rw [lives] at member
    refine Lives.forall_update before (fun _ _ _ uncut => ?_) life member
    cases uncut
  · rw [lives] at member
    refine Lives.forall_update before (fun _ _ holds => ?_) life member
    exact holds
  · rw [lives] at member
    exact before life member

theorem step_inTime {state : Interplay α} (reached : state.Reached) (onTime : state.OnTime)
    (inTime : state.InTime) (move : Move α) : (state.step move).InTime := by
  cases move with
  | conclude result =>
    simp only [step, conclude]
    split
    · rename_i may
      refine Lives.forall_update inTime fun life found _ uncut start time other drains ending => ?_
      rw [found] at may
      simp only [Option.any_some, Life.mayEnd, Bool.and_eq_true, Option.isNone_iff_eq_none] at may
      cases ending
      exact now_le_of_flying reached onTime found may.1 uncut drains
    · exact inTime
  | work mishap =>
    rw [step]
    rcases state.work_cases mishap with ⟨_, same⟩ |
      ⟨stride, advance, _, same | ⟨_, message, _, same⟩⟩
    · rw [same]
      exact inTime
    · rw [same]
      exact advance_inTime reached advance inTime
    · rw [same]
      exact advance_inTime reached advance inTime
  | _ => exact inTime

theorem run_inTime {state : Interplay α} (reached : state.Reached) (inTime : state.InTime)
    (moves : List (Move α)) (punctual : state.Punctual moves) : (state.run moves).InTime := by
  induction moves generalizing state with
  | nil => exact inTime
  | cons move rest inductionHypothesis =>
    exact inductionHypothesis (reached.step move)
      (step_inTime reached punctual.1 inTime move) punctual.2

theorem InTime.abortedIfLate {state : Interplay α} (inTime : state.InTime)
    (reached : state.Reached) {life : Life α} (member : life ∈ state.record.lives.toList) :
    life.AbortedIfLate state.host.graceMs state.record.published := by
  intro start drains judged late
  obtain ⟨result, verdict⟩ := Option.isSome_iff_exists.mp judged
  rcases (reached.tended.faithful life member).judged result verdict with
    ⟨uncut, time, ending⟩ | ⟨_, aborted⟩
  · have early := inTime life member uncut start time result drains ending
    have overrun := late time result ending
    omega
  · rw [verdict, aborted]

end Interplay

end WorkHost
