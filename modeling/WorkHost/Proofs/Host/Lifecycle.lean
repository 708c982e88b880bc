import WorkHost.Proofs.Host.Interplay

/-!
Contract: how the worker's state, the closing of the queue and the buffer go together.

`Lifecycle` says for each phase of the worker what its state is, whether the queue is
closed and what is still buffered. Every step of the worker keeps it
(`Advance.lifecycle`), and so does every move of a run (`run_sound`).
-/

namespace WorkHost

variable {β : Type}

namespace WorkerState

/-- No stop was acted upon. -/
def Intact (state : WorkerState) (channel : Channel β) : Prop :=
  state = .running ∧ channel.closed = false

/-- Draining has begun. -/
def Drained (state : WorkerState) (channel : Channel β) (stopping : Bool) : Prop :=
  state = .draining ∧ channel.closed = true ∧ stopping = true

theorem canTransition_draining_iff (state : WorkerState) :
    state.canTransition .draining = true ↔ state = .running := by
  cases state <;> decide

end WorkerState

/-- What goes with each phase of the worker. -/
def Lifecycle (worker : Worker β) (channel : Channel β) (stopping : Bool) : Prop :=
  match worker.phase with
  | .starting | .dequeuing | .launching _ | .executing _ => worker.state.Intact channel
  | .closing (some _) => worker.state.Intact channel ∧ stopping = true
  | .announcing (some _) => worker.state = .running ∧ channel.closed = true ∧ stopping = true
  | .draining .. | .aborting .. => worker.state.Drained channel stopping
  | .reporting .. | .reported => worker.state.Intact channel ∨ worker.state.Drained channel stopping
  | .leaving =>
    (worker.state.Intact channel ∧ (stopping = true ∨ channel.Deserted)) ∨
      worker.state.Drained channel stopping
  | .closing none =>
    stopping = true ∧ (worker.state.Intact channel ∨ worker.state.Drained channel stopping)
  | .announcing none =>
    stopping = true ∧ channel.closed = true ∧ worker.state ≠ .stopped
  | .sealing =>
    (worker.state.Intact channel ∧ channel.Deserted) ∨ worker.state.Drained channel stopping
  | .discarding count =>
    channel.closed = true ∧
      ((worker.state = .running ∧ channel.Deserted ∧ count = 0) ∨
        worker.state.Drained channel stopping)
  | .summing count =>
    channel.closed = true ∧ channel.buffer = [] ∧
      ((worker.state = .running ∧ count = 0) ∨ worker.state.Drained channel stopping)
  | .finishing =>
    channel.closed = true ∧ channel.buffer = [] ∧
      (worker.state = .running ∨ worker.state.Drained channel stopping)
  | .ended => channel.closed = true ∧ channel.buffer = [] ∧ worker.state = .stopped
  | .dead _ => channel.buffer = [] ∧ worker.state.Drained channel stopping

theorem Advance.lifecycle [Queued β] {view : Surroundings} {worker : Worker β}
    {channel : Channel β} {stride : Stride β}
    (holds : Lifecycle worker channel view.stopping)
    (advance : Advance view worker channel stride) :
    Lifecycle stride.worker stride.channel view.stopping := by
  cases advance with
  | begin phase => simpa [Lifecycle, phase, Stride.plain] using holds
  | heed phase stopping =>
    simp only [Lifecycle, phase] at holds
    exact Or.inl ⟨holds, Or.inl stopping⟩
  | take phase calm received =>
    obtain ⟨_, closed, _⟩ := Channel.receive_item received
    simp only [Lifecycle, phase] at holds
    exact ⟨holds.1, closed.trans holds.2⟩
  | desert phase calm received =>
    simp only [Lifecycle, phase] at holds
    have empty := (Channel.receive_none received (by simp)).1
    exact Or.inl ⟨holds, Or.inr ⟨empty, Channel.handles_of_receive_ended received holds.2⟩⟩
  | launch phase => simpa [Lifecycle, phase, Stride.plain] using holds
  | land phase ended =>
    simp only [Lifecycle, phase] at holds
    exact Or.inl holds
  | interrupt phase flying stopping =>
    simp only [Lifecycle, phase] at holds
    exact ⟨holds, stopping⟩
  | close phase =>
    rename_i flight
    cases flight with
    | some flight =>
      simp only [Lifecycle, phase] at holds
      exact ⟨holds.1.1, rfl, holds.2⟩
    | none =>
      simp only [Lifecycle, phase] at holds
      refine ⟨holds.1, rfl, ?_⟩
      rcases holds.2 with intact | drained
      · simp [intact.1]
      · simp [drained.1]
  | announce phase isNew =>
    rename_i flight
    cases flight with
    | some flight =>
      simp only [Lifecycle, phase] at holds
      exact ⟨rfl, holds.2⟩
    | none =>
      simp only [Lifecycle, phase] at holds
      exact Or.inr ⟨rfl, holds.2.1, holds.1⟩
  | resume phase before =>
    rename_i flight
    have drained : worker.state ≠ .running := by
      intro running
      simp [running, WorkerState.canTransition] at before
    cases flight with
    | some flight =>
      simp only [Lifecycle, phase] at holds
      exact absurd holds.1 drained
    | none =>
      simp only [Lifecycle, phase] at holds
      have draining : worker.state = .draining := by
        cases state : worker.state <;> simp_all
      exact Or.inr ⟨draining, holds.2.1, holds.1⟩
  | settle phase ended =>
    simp only [Lifecycle, phase] at holds
    exact Or.inr holds
  | cut phase flying late => simpa [Lifecycle, phase, Stride.plain] using holds
  | yield phase ended =>
    simp only [Lifecycle, phase] at holds
    exact Or.inr holds
  | detach phase flying late =>
    simp only [Lifecycle, phase] at holds
    exact Or.inr holds
  | report phase => simpa [Lifecycle, phase] using holds
  | again phase calm =>
    simp only [Lifecycle, phase] at holds
    rcases holds with intact | drained
    · exact intact
    · exact absurd drained.2.2 (by simp [calm])
  | quit phase stopping =>
    simp only [Lifecycle, phase] at holds
    exact holds.imp_left fun intact => ⟨intact, Or.inl stopping⟩
  | obey phase stopping =>
    simp only [Lifecycle, phase] at holds
    exact ⟨stopping, holds.imp_left And.left⟩
  | leave phase calm =>
    simp only [Lifecycle, phase] at holds
    rcases holds with ⟨intact, stopping | deserted⟩ | drained
    · exact absurd stopping (by simp [calm])
    · exact Or.inl ⟨intact, deserted⟩
    · exact Or.inr drained
  | shut phase =>
    simp only [Lifecycle, phase] at holds
    refine ⟨rfl, ?_⟩
    rcases holds with ⟨intact, deserted⟩ | drained
    · exact Or.inl ⟨intact.1, deserted, rfl⟩
    · exact Or.inr ⟨drained.1, rfl, drained.2.2⟩
  | discard phase received =>
    obtain ⟨buffer, closed, _⟩ := Channel.receive_item received
    simp only [Lifecycle, phase] at holds
    refine ⟨closed.trans holds.1, ?_⟩
    rcases holds.2 with ⟨_, deserted, _⟩ | drained
    · exact absurd buffer (by simp [deserted.1])
    · exact Or.inr ⟨drained.1, closed.trans drained.2.1, drained.2.2⟩
  | exhaust phase empty =>
    simp only [Lifecycle, phase] at holds
    exact ⟨holds.1, empty, holds.2.imp_left fun idle => ⟨idle.1, idle.2.2⟩⟩
  | sum phase =>
    simp only [Lifecycle, phase] at holds
    exact ⟨holds.1, holds.2.1, holds.2.2.imp_left And.left⟩
  | stop phase =>
    simp only [Lifecycle, phase] at holds
    exact ⟨holds.1, holds.2.1, rfl⟩

/-- What callers do, and a request to stop, leave the worker's phase true. -/
theorem Lifecycle.transport {worker : Worker β} {before after : Channel β}
    {stopping stopped : Bool} (holds : Lifecycle worker before stopping)
    (closed : after.closed = before.closed)
    (buffer : before.closed = true → after.buffer = before.buffer)
    (deserted : before.Deserted → after.Deserted) (stays : stopping = true → stopped = true) :
    Lifecycle worker after stopped := by
  have intact : worker.state.Intact before → worker.state.Intact after :=
    fun was => ⟨was.1, closed.trans was.2⟩
  have drained : worker.state.Drained before stopping → worker.state.Drained after stopped :=
    fun was => ⟨was.1, closed.trans was.2.1, stays was.2.2⟩
  have empty : before.closed = true → before.buffer = [] → after.buffer = [] :=
    fun shut was => (buffer shut).trans was
  unfold Lifecycle at holds ⊢
  split at holds
  case h_1 | h_2 | h_3 | h_4 => exact intact holds
  case h_5 => exact ⟨intact holds.1, stays holds.2⟩
  case h_6 => exact ⟨holds.1, closed.trans holds.2.1, stays holds.2.2⟩
  case h_7 | h_8 => exact drained holds
  case h_9 | h_10 => exact holds.imp intact drained
  case h_11 =>
    exact holds.imp (fun was => ⟨intact was.1, was.2.imp stays deserted⟩) drained
  case h_12 => exact ⟨stays holds.1, holds.2.imp intact drained⟩
  case h_13 => exact ⟨stays holds.1, closed.trans holds.2.1, holds.2.2⟩
  case h_14 => exact holds.imp (fun was => ⟨intact was.1, deserted was.2⟩) drained
  case h_15 =>
    exact ⟨closed.trans holds.1,
      holds.2.imp (fun was => ⟨was.1, deserted was.2.1, was.2.2⟩) drained⟩
  case h_16 =>
    exact ⟨closed.trans holds.1, empty holds.1 holds.2.1, holds.2.2.imp_right drained⟩
  case h_17 =>
    exact ⟨closed.trans holds.1, empty holds.1 holds.2.1, holds.2.2.imp_right drained⟩
  case h_18 => exact ⟨closed.trans holds.1, empty holds.1 holds.2.1, holds.2.2⟩
  case h_19 => exact ⟨empty holds.2.2.1 holds.1, drained holds.2⟩

namespace Lifecycle

variable {worker : Worker β} {channel : Channel β} {stopping : Bool}

theorem closed (lifecycle : Lifecycle worker channel stopping)
    (notRunning : worker.state ≠ .running) : channel.closed = true := by
  unfold Lifecycle at lifecycle
  split at lifecycle <;> simp_all [WorkerState.Intact, WorkerState.Drained]

theorem ended_of_stopped (lifecycle : Lifecycle worker channel stopping)
    (stopped : worker.state = .stopped) : worker.phase = .ended := by
  unfold Lifecycle at lifecycle
  split at lifecycle <;> simp_all [WorkerState.Intact, WorkerState.Drained]

theorem buffer_of_stopped (lifecycle : Lifecycle worker channel stopping)
    (stopped : worker.state = .stopped) : channel.buffer = [] := by
  have phase := lifecycle.ended_of_stopped stopped
  simp only [Lifecycle, phase] at lifecycle
  exact lifecycle.2.1

end Lifecycle

namespace Interplay

variable {α : Type}

/-- What is true of every state that a run reaches. -/
structure Sound (state : Interplay α) : Prop where
  staffed : state.traffic.Staffed
  numbered : state.callers.Numbered
  lifecycle : Lifecycle state.host.worker state.channel state.host.stopping

theorem create_sound (config : QueueConfig) : (create config : Interplay α).Sound where
  staffed _ := rfl
  numbered := Callers.fresh_numbered
  lifecycle := ⟨rfl, rfl⟩

variable [Queued α]

theorem advance_sound {state : Interplay α} (sound : state.Sound) {stride : Stride (Call α)}
    (advance : Advance state.view state.host.worker state.channel stride) :
    (state.advance stride).Sound where
  staffed gone := sound.staffed (advance.handles.symm.trans gone)
  numbered := sound.numbered
  lifecycle := advance.lifecycle sound.lifecycle

/-- The worker discards only while it drains. -/
theorem collapse_sound {state : Interplay α} (sound : state.Sound) {stride : Stride (Call α)}
    (advance : Advance state.view state.host.worker state.channel stride) {call : Call α}
    (discards : stride.command = some (.discard call)) (message : String) :
    ((state.advance stride).collapse message).Sound where
  staffed gone := sound.staffed (advance.handles.symm.trans gone)
  numbered := sound.numbered
  lifecycle := by
    have after := advance.lifecycle sound.lifecycle
    cases advance with
    | discard phase received =>
      rcases after.2 with idle | drained
      · exact absurd idle.2.2 (by simp)
      · exact ⟨rfl, drained.1, drained.2.1, drained.2.2⟩
    | _ => simp [Stride.plain] at discards

theorem step_sound (state : Interplay α) (move : Move α) (sound : state.Sound) :
    (state.step move).Sound := by
  cases move with
  | traffic move =>
    obtain ⟨items, effect⟩ := state.traffic.step_effect move
    exact {
      staffed := Traffic.step_staffed sound.staffed move
      numbered := Traffic.step_numbered sound.numbered move
      lifecycle := sound.lifecycle.transport effect.closed
        (fun shut => (Traffic.step_of_closed shut move).1)
        (fun deserted => Traffic.step_deserted sound.staffed deserted move) id }
  | stop =>
    exact ⟨sound.staffed, sound.numbered,
      sound.lifecycle.transport rfl (fun _ => rfl) id (fun _ => rfl)⟩
  | conclude result =>
    simp only [step, conclude]
    split
    · exact ⟨sound.staffed, sound.numbered, sound.lifecycle⟩
    · exact sound
  | elapse milliseconds => exact ⟨sound.staffed, sound.numbered, sound.lifecycle⟩
  | work mishap =>
    rw [step]
    rcases state.work_cases mishap with ⟨_, same⟩ |
      ⟨stride, advance, _, same | ⟨call, message, discards, same⟩⟩
    · rw [same]
      exact sound
    · rw [same]
      exact advance_sound sound advance
    · rw [same]
      exact collapse_sound sound advance discards message

theorem run_sound (config : QueueConfig) (moves : List (Move α)) :
    ((create config).run moves).Sound :=
  run_keeps step_sound (create_sound config) moves

/-! ## Invariants of runs -/

/-- A state that some run reaches. -/
def Reached (state : Interplay α) : Prop :=
  ∃ config moves, state = (create config).run moves

theorem Reached.sound {state : Interplay α} (reached : state.Reached) : state.Sound := by
  obtain ⟨config, moves, rfl⟩ := reached
  exact run_sound config moves

theorem reached_create (config : QueueConfig) : (create config : Interplay α).Reached :=
  ⟨config, [], rfl⟩

theorem reached_run (config : QueueConfig) (moves : List (Move α)) :
    ((create config).run moves).Reached := ⟨config, moves, rfl⟩

theorem Reached.run {state : Interplay α} (reached : state.Reached) (moves : List (Move α)) :
    (state.run moves).Reached := by
  obtain ⟨config, before, rfl⟩ := reached
  exact ⟨config, before ++ moves, (run_append _ _ _).symm⟩

theorem Reached.step {state : Interplay α} (reached : state.Reached) (move : Move α) :
    (state.step move).Reached := reached.run [move]

/-- A property that every kind of move keeps, of the states that are reached. -/
structure Invariant (Keeps : Interplay α → Prop) : Prop where
  traffic : ∀ state move, state.Reached → Keeps state → Keeps (state.step (.traffic move))
  stop : ∀ state, state.Reached → Keeps state → Keeps (state.step .stop)
  conclude : ∀ state result, state.Reached → Keeps state → Keeps (state.conclude result)
  elapse : ∀ state milliseconds, state.Reached → Keeps state →
    Keeps (state.step (.elapse milliseconds))
  advance : ∀ state stride, state.Reached →
    Advance state.view state.host.worker state.channel stride →
    Keeps state → Keeps (state.advance stride)
  collapse : ∀ state count message, state.Reached →
    state.host.worker.phase = .discarding (count + 1) →
    Keeps state → Keeps (state.collapse message)

namespace Invariant

variable {Keeps : Interplay α → Prop}

theorem step (invariant : Invariant Keeps) {state : Interplay α} (reached : state.Reached)
    (holds : Keeps state) (move : Move α) : Keeps (state.step move) := by
  cases move with
  | traffic move => exact invariant.traffic state move reached holds
  | stop => exact invariant.stop state reached holds
  | conclude result => exact invariant.conclude state result reached holds
  | elapse milliseconds => exact invariant.elapse state milliseconds reached holds
  | work mishap =>
    rw [Interplay.step]
    rcases state.work_cases mishap with ⟨_, same⟩ |
      ⟨stride, advance, calm, same | ⟨call, message, discards, same⟩⟩
    · rw [same]
      exact holds
    · rw [same]
      exact invariant.advance state stride reached advance holds
    · rw [same]
      have kept := invariant.advance state stride reached advance holds
      have after : (state.advance stride).Reached := calm ▸ reached.step (.work none)
      cases advance with
      | discard phase received => exact invariant.collapse _ _ message after rfl kept
      | _ => simp [Stride.plain] at discards

theorem run (invariant : Invariant Keeps) {state : Interplay α} (reached : state.Reached)
    (holds : Keeps state) (moves : List (Move α)) : Keeps (state.run moves) := by
  have both : ∀ (state : Interplay α) move, state.Reached ∧ Keeps state →
      (state.step move).Reached ∧ Keeps (state.step move) :=
    fun state move kept => ⟨kept.1.step move, invariant.step kept.1 kept.2 move⟩
  exact (run_keeps both ⟨reached, holds⟩ moves).2

/-- What holds at the start holds in every state that is reached. -/
theorem reached (invariant : Invariant Keeps) (start : ∀ config, Keeps (create config))
    {state : Interplay α} (reached : state.Reached) : Keeps state := by
  obtain ⟨config, moves, rfl⟩ := reached
  exact invariant.run (reached_create config) (start config) moves

end Invariant

end Interplay

end WorkHost
