import WorkHost.Proofs.Host.Publication

/-!
Contract: what becomes of the items that were started.

The item in flight is watched over by the worker until its result is reported
(`Phase.Custody`). `Life.Faithful` relates the result, the end of the item's task and
the time at which it was told to abort: the result is the item's own unless it was told
to abort, which happens only after the grace period.
-/

namespace WorkHost

namespace Life

variable {α : Type}

/-- The result that is due: the item's own, or that of an abort. -/
def Deserves (life : Life α) (result : ExecutionResult) : Prop :=
  (life.cutAt = none ∧ ∃ time, life.ending = some (time, result)) ∨
    (life.cutAt.isSome = true ∧ result = .aborted)

/-- How the times and the result of a started item go together. -/
structure Faithful (life : Life α) (now graceMs : Nat) (published : List (Nat × WorkerState)) :
    Prop where
  ended : ∀ time result, life.ending = some (time, result) → time ≤ now
  cut : ∀ time, life.cutAt = some time → time ≤ now
  cutFirst : ∀ cut time result, life.cutAt = some cut → life.ending = some (time, result) →
    cut ≤ time
  overran : ∀ cut, life.cutAt = some cut →
    ∃ start, (start, .draining) ∈ published ∧ start + graceMs ≤ cut
  aborted : ∀ time, life.ending = some (time, .aborted) → life.cutAt.isSome = true
  judged : ∀ result, life.verdict = some result → life.Deserves result

theorem begin_faithful (call : Call α) (now graceMs : Nat)
    (published : List (Nat × WorkerState)) : (begin call).Faithful now graceMs published := by
  constructor <;> simp [begin]

theorem Faithful.later {life : Life α} {now later graceMs : Nat}
    {published more : List (Nat × WorkerState)} (faithful : life.Faithful now graceMs published)
    (passes : now ≤ later) (grows : published <+: more) : life.Faithful later graceMs more where
  ended time result ending := Nat.le_trans (faithful.ended time result ending) passes
  cut time cutAt := Nat.le_trans (faithful.cut time cutAt) passes
  cutFirst := faithful.cutFirst
  overran cut cutAt := by
    obtain ⟨start, member, late⟩ := faithful.overran cut cutAt
    exact ⟨start, grows.subset member, late⟩
  aborted := faithful.aborted
  judged := faithful.judged

/-- Only an item that was told to abort is aborted. -/
theorem Faithful.cut_of_aborted {life : Life α} {now graceMs : Nat}
    {published : List (Nat × WorkerState)} (faithful : life.Faithful now graceMs published)
    (deserves : life.Deserves .aborted) : ∃ time, life.cutAt = some time := by
  rw [← Option.isSome_iff_exists]
  rcases deserves with ⟨_, time, ending⟩ | ⟨cut, _⟩
  · exact faithful.aborted time ending
  · exact cut

/-- The task of an item ends. -/
theorem Faithful.end {life : Life α} {now graceMs : Nat} {published : List (Nat × WorkerState)}
    (faithful : life.Faithful now graceMs published) {result : ExecutionResult}
    (may : life.mayEnd result = true) :
    { life with ending := some (now, result) }.Faithful now graceMs published := by
  simp only [mayEnd, Bool.and_eq_true, Option.isNone_iff_eq_none, Bool.or_eq_true,
    decide_eq_true_eq] at may
  obtain ⟨flying, heeded⟩ := may
  refine ⟨?_, faithful.cut, ?_, faithful.overran, ?_, ?_⟩
  · rintro time other ⟨⟩
    exact Nat.le_refl _
  · rintro cut time other cutAt ⟨⟩
    exact faithful.cut cut cutAt
  · rintro time ⟨⟩
    exact heeded.resolve_left (by simp)
  · intro verdict given
    rcases faithful.judged verdict given with ⟨_, time, ending⟩ | aborted
    · simp [flying] at ending
    · exact Or.inr aborted

/-- An item that runs is told to abort. -/
theorem Faithful.abort {life : Life α} {now graceMs start : Nat}
    {published : List (Nat × WorkerState)} (faithful : life.Faithful now graceMs published)
    (flying : life.ending = none) (waiting : life.verdict = none)
    (drains : (start, .draining) ∈ published) (late : start + graceMs ≤ now) :
    { life with cutAt := some now }.Faithful now graceMs published := by
  refine ⟨faithful.ended, ?_, ?_, ?_, ?_, ?_⟩
  · rintro time ⟨⟩
    exact Nat.le_refl _
  · rintro cut time result _ ending
    simp [flying] at ending
  · rintro cut ⟨⟩
    exact ⟨start, drains, late⟩
  · exact fun _ _ => rfl
  · intro result given
    simp [waiting] at given

/-- An item gets the result that is due. -/
theorem Faithful.judge {life : Life α} {now graceMs : Nat}
    {published : List (Nat × WorkerState)} (faithful : life.Faithful now graceMs published)
    {result : ExecutionResult} (deserves : life.Deserves result) :
    { life with verdict := some result }.Faithful now graceMs published := by
  refine ⟨faithful.ended, faithful.cut, faithful.cutFirst, faithful.overran, faithful.aborted, ?_⟩
  rintro other ⟨⟩
  exact deserves

end Life

/-- An item that runs and is left alone, and whose end the worker can see. -/
structure InHand {α : Type} (life : Life α) (ended : Option ExecutionResult) : Prop where
  uncut : life.cutAt = none
  unjudged : life.verdict = none
  seen : ended = life.ending.map Prod.snd

/-- What goes with each phase of the worker for the item that was started last. -/
def Phase.Custody {α β : Type} (phase : Phase β) (current : Option (Life α))
    (ended : Option ExecutionResult) : Prop :=
  match phase with
  | .executing _ | .closing (some _) | .announcing (some _) | .draining .. =>
    ∃ life, current = some life ∧ InHand life ended
  | .aborting .. =>
    ∃ life, current = some life ∧ life.cutAt.isSome = true ∧ life.verdict = none
  | .reporting _ result =>
    ∃ life, current = some life ∧ life.Deserves result ∧ life.verdict = none
  | _ => ∀ life ∈ current, life.verdict.isSome = true

/-- Whether an item was started whose end is not yet reported. -/
def Phase.inFlight {β : Type} : Phase β → Bool
  | .executing _ | .draining .. | .aborting .. | .reporting .. => true
  | .closing flight | .announcing flight => flight.isSome
  | _ => false

theorem Phase.Custody.unjudged {α β : Type} {phase : Phase β} {current : Option (Life α)}
    {ended : Option ExecutionResult} (custody : phase.Custody current ended)
    (inFlight : phase.inFlight = true) : ∃ life, current = some life ∧ life.verdict = none := by
  cases phase with
  | executing _ | draining _ _ =>
    obtain ⟨life, same, inHand⟩ := custody
    exact ⟨life, same, inHand.unjudged⟩
  | closing flight | announcing flight =>
    obtain ⟨known, rfl⟩ := Option.isSome_iff_exists.mp inFlight
    obtain ⟨life, same, inHand⟩ := custody
    exact ⟨life, same, inHand.unjudged⟩
  | aborting _ _ | reporting _ _ =>
    obtain ⟨life, same, _, unjudged⟩ := custody
    exact ⟨life, same, unjudged⟩
  | _ => cases inFlight

theorem InHand.deserves {α : Type} {life : Life α} {ended : Option ExecutionResult}
    (inHand : InHand life ended) {result : ExecutionResult} (landed : ended = some result) :
    life.Deserves result := by
  have seen := inHand.seen
  rw [landed] at seen
  obtain ⟨⟨time, other⟩, ending, same⟩ := Option.map_eq_some_iff.mp seen.symm
  exact Or.inl ⟨inHand.uncut, time, by rw [ending, ← same]⟩

theorem InHand.flying {α : Type} {life : Life α} {ended : Option ExecutionResult}
    (inHand : InHand life ended) (flying : ended = none) : life.ending = none := by
  have seen := inHand.seen
  rw [flying] at seen
  exact Option.map_eq_none_iff.mp seen.symm

/-- The task of the item in flight ends. -/
theorem Phase.Custody.end {α β : Type} {phase : Phase β} {current : Option (Life α)}
    {ended : Option ExecutionResult} (custody : phase.Custody current ended)
    {result : ExecutionResult} (may : (current.any fun life => life.mayEnd result) = true)
    (now : Nat) :
    phase.Custody (current.map fun life => { life with ending := some (now, result) })
      (some result) := by
  unfold Phase.Custody at custody ⊢
  split at custody
  case h_1 | h_2 | h_3 | h_4 =>
    obtain ⟨life, same, inHand⟩ := custody
    exact ⟨_, congrArg (Option.map _) same, inHand.uncut, inHand.unjudged, rfl⟩
  case h_5 =>
    obtain ⟨life, same, cut, waiting⟩ := custody
    exact ⟨_, congrArg (Option.map _) same, cut, waiting⟩
  case h_6 =>
    obtain ⟨life, same, deserves, waiting⟩ := custody
    refine ⟨_, congrArg (Option.map _) same, ?_, waiting⟩
    rcases deserves with ⟨_, time, ending⟩ | aborted
    · simp [same, Life.mayEnd, ending] at may
    · exact Or.inr aborted
  case h_7 =>
    intro life member
    obtain ⟨before, started, rfl⟩ := Option.map_eq_some_iff.mp member
    exact custody before started

namespace Interplay

variable {α : Type}

/-- The items that were started are accounted for. -/
structure Tended (state : Interplay α) : Prop where
  faithful : ∀ life ∈ state.record.lives.toList,
    life.Faithful state.now state.host.graceMs state.record.published
  past : ∀ life ∈ state.record.lives.past, life.verdict.isSome = true
  custody : state.host.worker.phase.Custody state.record.lives.current state.host.ended
  deadline : ∀ flight deadline, state.host.worker.phase = .draining flight deadline →
    ∃ start, (start, .draining) ∈ state.record.published ∧
      deadline = start + state.host.graceMs

theorem create_tended (config : QueueConfig) : (create config : Interplay α).Tended where
  faithful life member := by cases member
  past life member := by cases member
  custody life member := by cases member
  deadline flight deadline phase := by cases phase

end Interplay

namespace Lives

variable {α : Type}

theorem forall_toList {lives : Lives α} {Holds : Life α → Prop}
    (past : ∀ life ∈ lives.past, Holds life) (current : ∀ life ∈ lives.current, Holds life) :
    ∀ life ∈ lives.toList, Holds life := by
  intro life member
  rcases List.mem_append.mp member with old | last
  · exact past life old
  · exact current life (Option.mem_toList.mp last)

/-- A property of all items that a change of the item in flight keeps. -/
theorem forall_update {lives : Lives α} {Holds : Life α → Prop} {change : Life α → Life α}
    (holds : ∀ life ∈ lives.toList, Holds life)
    (changed : ∀ life, lives.current = some life → Holds life → Holds (change life)) :
    ∀ life ∈ (lives.update change).toList, Holds life := by
  intro life member
  obtain ⟨past, current⟩ := lives
  rcases List.mem_append.mp member with old | new
  · exact holds life (List.mem_append_left _ old)
  · cases current with
    | none => cases new
    | some flying =>
      rw [List.mem_singleton.mp new]
      exact changed flying rfl (holds flying (by simp [toList]))

end Lives

namespace Interplay

variable {α : Type} [Queued α]

/-- The ways in which a step touches the items that were started. -/
theorem advance_lives {state : Interplay α} {stride : Stride (Call α)}
    (advance : Advance state.view state.host.worker state.channel stride) :
    (∃ call, state.host.worker.phase = .launching call ∧
        (state.advance stride).record.lives = ⟨state.record.lives.toList, some (.begin call)⟩) ∨
      (∃ flight deadline, state.host.worker.phase = .draining flight deadline ∧
        state.host.ended = none ∧ deadline ≤ state.now ∧
        (state.advance stride).record.lives =
          state.record.lives.update fun life => { life with cutAt := some state.now }) ∨
      (∃ flight result, state.host.worker.phase = .reporting flight result ∧
        (state.advance stride).record.lives =
          state.record.lives.update fun life => { life with verdict := some result }) ∨
      ((∀ flight result, state.host.worker.phase ≠ .reporting flight result) ∧
        (state.advance stride).record.lives = state.record.lives) := by
  simp only [Interplay.advance, follow, hostStride]
  cases advance with
  | launch phase => exact Or.inl ⟨_, phase, by rw [phase]; rfl⟩
  | cut phase flying late =>
    exact Or.inr (Or.inl ⟨_, _, phase, flying, late, by rw [phase]; rfl⟩)
  | report phase => exact Or.inr (Or.inr (Or.inl ⟨_, _, phase, by rw [phase]; rfl⟩))
  | begin phase | heed phase _ | take phase _ _ | desert phase _ _ | land phase _
  | interrupt phase _ _ | close phase | announce phase _ | resume phase _ | settle phase _
  | yield phase _ | detach phase _ _ | again phase _ | quit phase _ | obey phase _
  | leave phase _ | shut phase | discard phase _ | exhaust phase _ | sum phase | stop phase =>
    exact Or.inr (Or.inr (Or.inr ⟨by simp [phase], by rw [phase]; rfl⟩))

theorem advance_faithful {state : Interplay α} {stride : Stride (Call α)}
    (advance : Advance state.view state.host.worker state.channel stride)
    (tended : state.Tended) :
    ∀ life ∈ (state.advance stride).record.lives.toList,
      life.Faithful state.now state.host.graceMs (state.advance stride).record.published := by
  have grows : state.record.published <+: (state.advance stride).record.published :=
    List.prefix_append _ _
  have before : ∀ life ∈ state.record.lives.toList,
      life.Faithful state.now state.host.graceMs (state.advance stride).record.published :=
    fun life member => (tended.faithful life member).later (Nat.le_refl _) grows
  have custody := tended.custody
  rcases advance_lives advance with ⟨call, phase, lives⟩ |
    ⟨flight, deadline, phase, flying, late, lives⟩ | ⟨flight, result, phase, lives⟩ | ⟨_, lives⟩
  · intro life member
    rw [lives] at member
    rcases List.mem_append.mp member with old | new
    · exact before life old
    · rw [List.mem_singleton.mp new]
      exact Life.begin_faithful _ _ _ _
  · rw [phase] at custody
    obtain ⟨current, same, inHand⟩ := custody
    obtain ⟨start, drains, due⟩ := tended.deadline flight deadline phase
    rw [lives]
    refine Lives.forall_update before fun life found faithful => ?_
    rw [same, Option.some.injEq] at found
    subst found
    exact faithful.abort (inHand.flying flying) inHand.unjudged (grows.subset drains)
      (due ▸ late)
  · rw [phase] at custody
    obtain ⟨current, same, deserves, _⟩ := custody
    rw [lives]
    refine Lives.forall_update before fun life found faithful => ?_
    rw [same, Option.some.injEq] at found
    subst found
    exact faithful.judge deserves
  · rw [lives]
    exact before

theorem advance_past {state : Interplay α} {stride : Stride (Call α)}
    (advance : Advance state.view state.host.worker state.channel stride)
    (tended : state.Tended) :
    ∀ life ∈ (state.advance stride).record.lives.past, life.verdict.isSome = true := by
  have custody := tended.custody
  rcases advance_lives advance with ⟨call, phase, lives⟩ | ⟨flight, deadline, phase, _, _, lives⟩ |
    ⟨flight, result, phase, lives⟩ | ⟨_, lives⟩
  · rw [phase] at custody
    rw [lives]
    exact Lives.forall_toList tended.past custody
  · rw [lives]
    exact tended.past
  · rw [lives]
    exact tended.past
  · rw [lives]
    exact tended.past

theorem advance_custody {state : Interplay α} {stride : Stride (Call α)}
    (advance : Advance state.view state.host.worker state.channel stride)
    (tended : state.Tended) :
    (state.advance stride).host.worker.phase.Custody
      (state.advance stride).record.lives.current (state.advance stride).host.ended := by
  have custody := tended.custody
  simp only [Interplay.advance, follow, hostStride]
  cases advance with
  | launch phase =>
    rw [phase] at custody ⊢
    exact ⟨_, rfl, rfl, rfl, rfl⟩
  | land phase ended =>
    rw [phase] at custody ⊢
    obtain ⟨life, same, inHand⟩ := custody
    exact ⟨life, same, inHand.deserves ended, inHand.unjudged⟩
  | settle phase ended =>
    rw [phase] at custody ⊢
    obtain ⟨life, same, inHand⟩ := custody
    exact ⟨life, same, inHand.deserves ended, inHand.unjudged⟩
  | cut phase flying late =>
    rw [phase] at custody ⊢
    obtain ⟨life, same, inHand⟩ := custody
    refine ⟨{ life with cutAt := some state.now }, ?_, rfl, inHand.unjudged⟩
    exact congrArg (Option.map _) same
  | yield phase ended =>
    rw [phase] at custody ⊢
    obtain ⟨life, same, cut, waiting⟩ := custody
    exact ⟨life, same, Or.inr ⟨cut, rfl⟩, waiting⟩
  | detach phase flying late =>
    rw [phase] at custody ⊢
    obtain ⟨life, same, cut, waiting⟩ := custody
    exact ⟨life, same, Or.inr ⟨cut, rfl⟩, waiting⟩
  | report phase =>
    rw [phase] at custody ⊢
    intro life member
    obtain ⟨before, _, rfl⟩ := Option.map_eq_some_iff.mp member
    rfl
  | close phase | announce phase isNew | resume phase before =>
    rename_i flight
    rw [phase] at custody ⊢
    cases flight <;> exact custody
  | begin phase | heed phase _ | take phase _ _ | desert phase _ _ | interrupt phase _ _
  | again phase _ | quit phase _ | obey phase _ | leave phase _ | shut phase | discard phase _
  | exhaust phase _ | sum phase | stop phase =>
    rw [phase] at custody ⊢
    exact custody

theorem advance_deadline {state : Interplay α} {stride : Stride (Call α)} (sound : state.Sound)
    (advance : Advance state.view state.host.worker state.channel stride) {flight : Flight}
    {deadline : Nat} (phase : stride.worker.phase = .draining flight deadline) :
    ∃ start, (start, .draining) ∈ (state.advance stride).record.published ∧
      deadline = start + state.host.graceMs := by
  have lifecycle := sound.lifecycle
  cases advance with
  | announce announcing isNew =>
    rw [WorkerState.canTransition_draining_iff] at isNew
    rename_i waiting
    cases waiting with
    | none => cases phase
    | some flight =>
      cases phase
      refine ⟨state.now, List.mem_append_right _ ?_, rfl⟩
      simp [WorkerState.publication, hostStride, isNew]
  | resume announcing before =>
    rename_i waiting
    cases waiting with
    | none => cases phase
    | some flight =>
      simp only [Lifecycle, announcing] at lifecycle
      simp [lifecycle.1, WorkerState.canTransition] at before
  | _ => cases phase

theorem tended_invariant : Invariant (Tended : Interplay α → Prop) where
  traffic _ _ _ tended := ⟨tended.faithful, tended.past, tended.custody, tended.deadline⟩
  stop _ _ tended := ⟨tended.faithful, tended.past, tended.custody, tended.deadline⟩
  conclude state result _ tended := by
    unfold conclude
    split
    · rename_i may
      refine ⟨?_, tended.past, ?_, tended.deadline⟩
      · refine Lives.forall_update tended.faithful fun life found faithful => ?_
        rw [found] at may
        exact faithful.end may
      · exact tended.custody.end may state.now
    · exact tended
  elapse state milliseconds _ tended :=
    ⟨fun life member => (tended.faithful life member).later (Nat.le_add_right _ _)
      List.prefix_rfl, tended.past, tended.custody, tended.deadline⟩
  advance state stride reached advance tended :=
    ⟨advance_faithful advance tended, advance_past advance tended,
      advance_custody advance tended, fun _ _ => advance_deadline reached.sound advance⟩
  collapse state count message _ phase tended := by
    have custody := tended.custody
    rw [phase] at custody
    refine ⟨tended.faithful, tended.past, custody, fun flight deadline dead => ?_⟩
    cases dead

theorem Reached.tended {state : Interplay α} (reached : state.Reached) : state.Tended :=
  tended_invariant.reached create_tended reached

/-- An item is aborted only after draining has begun. -/
theorem Reached.draining_of_aborted {state : Interplay α} (reached : state.Reached)
    {life : Life α} (member : life ∈ state.record.lives.toList)
    (deserves : life.Deserves .aborted) : .draining ∈ state.record.states := by
  have faithful := reached.tended.faithful life member
  obtain ⟨time, cutAt⟩ := faithful.cut_of_aborted deserves
  obtain ⟨start, drains, _⟩ := faithful.overran time cutAt
  exact List.mem_map_of_mem drains

end Interplay

end WorkHost
