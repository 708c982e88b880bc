import WorkHost.Proofs.Host.Lifecycle

/-!
Contract: the states that the worker publishes.

They only move forward (`Announced.course`), each entry into draining comes with one
event, and draining goes with a request to stop that the worker has noticed
(`Attentive`). A worker that has noticed one announces draining within three steps
(`run_draining`).
-/

namespace WorkHost

namespace WorkerState

/-- The ways to come to a state. -/
inductive Course : List WorkerState → WorkerState → Prop where
  | running : Course [.running] .running
  | draining : Course [.running, .draining] .draining
  | stopped : Course [.running, .stopped] .stopped
  | drained : Course [.running, .draining, .stopped] .stopped

theorem Course.draining_mem {states : List WorkerState} (course : Course states .draining) :
    .draining ∈ states := by
  cases course
  simp

theorem Course.draining_not_mem {states : List WorkerState} (course : Course states .running) :
    .draining ∉ states := by
  cases course
  simp

theorem Course.increasing {states : List WorkerState} {state : WorkerState}
    (course : Course states state) :
    states.Pairwise fun earlier later => earlier.rank < later.rank := by
  cases course <;> decide

theorem Course.last {states : List WorkerState} {state : WorkerState}
    (course : Course states state) :
    states.head? = some .running ∧ states.getLast? = some state := by
  cases course <;> exact ⟨rfl, rfl⟩

theorem Course.count_draining {states : List WorkerState} {state : WorkerState}
    (course : Course states state) : states.count .draining ≤ 1 := by
  cases course <;> decide

end WorkerState

/-- Whether the worker is on its way to draining. -/
def Phase.headsForDraining {β : Type} (stopping : Bool) : Phase β → Bool
  | .leaving => stopping
  | .closing _ | .announcing _ => true
  | _ => false

/-- How many steps of the worker are left until it announces draining. -/
def Phase.stepsToDraining {β : Type} : Phase β → Nat
  | .leaving => 3
  | .closing _ => 2
  | .announcing _ => 1
  | _ => 0

/-- A worker that announces draining a second time drains already. -/
theorem Lifecycle.draining_of_resume {β : Type} {worker : Worker β} {channel : Channel β}
    {stopping : Bool} {flight : Option Flight} (lifecycle : Lifecycle worker channel stopping)
    (phase : worker.phase = .announcing flight)
    (before : worker.state.canTransition .draining = false) : worker.state = .draining := by
  have notRunning : worker.state ≠ .running := by
    intro running
    simp [running, WorkerState.canTransition] at before
  cases flight with
  | some flight =>
    simp only [Lifecycle, phase] at lifecycle
    exact absurd lifecycle.1 notRunning
  | none =>
    simp only [Lifecycle, phase] at lifecycle
    cases state : worker.state with
    | running => exact absurd state notRunning
    | draining => rfl
    | stopped => exact absurd state lifecycle.2.2

namespace Advance

variable {β : Type} [Queued β] {view : Surroundings} {worker : Worker β} {channel : Channel β}
  {stride : Stride β}

/-- The event about draining is emitted in the step that publishes the state. -/
theorem drains (advance : Advance view worker channel stride) :
    (Report.events stride.reports).count .drainStarted =
      (worker.state.added stride.worker.state).count .draining := by
  cases advance with
  | announce phase isNew =>
    rw [WorkerState.canTransition_draining_iff] at isNew
    rw [isNew]
    rfl
  | stop phase => cases worker.state <;> rfl
  | report phase =>
    rename_i flight result
    cases result <;> simp [Flight.endEvent]
  | sum phase =>
    rename_i count
    by_cases nothing : count = 0 <;> simp [Stride.plain, nothing]
  | _ => simp [Stride.plain]

theorem course {states : List WorkerState} (lifecycle : Lifecycle worker channel view.stopping)
    (advance : Advance view worker channel stride)
    (course : WorkerState.Course states worker.state) :
    WorkerState.Course (states ++ worker.state.added stride.worker.state) stride.worker.state := by
  cases advance with
  | announce phase isNew =>
    rw [WorkerState.canTransition_draining_iff] at isNew
    rw [isNew] at course ⊢
    cases course
    exact .draining
  | stop phase =>
    simp only [Lifecycle, phase] at lifecycle
    rcases lifecycle.2.2 with running | drained
    · rw [running] at course ⊢
      cases course
      exact .stopped
    · rw [drained.1] at course ⊢
      cases course
      exact .drained
  | _ => simpa [Stride.plain] using course

end Advance

namespace Interplay

variable {α : Type}

/-- What was published goes with the worker's state and with the events. -/
structure Announced (state : Interplay α) : Prop where
  course : WorkerState.Course state.record.states state.host.worker.state
  drains : state.record.events.count .drainStarted = state.record.states.count .draining

/-- Draining goes with a request to stop that the worker has noticed. -/
structure Attentive (state : Interplay α) : Prop where
  asked : state.record.noticed = true → state.host.stopping = true
  aware : state.host.worker.phase.headsForDraining state.host.stopping = true →
    state.host.worker.phase ≠ .leaving → state.record.noticed = true
  noticed : .draining ∈ state.record.states → state.record.noticed = true
  heading : state.record.noticed = true → .draining ∈ state.record.states ∨
    state.host.worker.phase.headsForDraining state.host.stopping = true

theorem create_announced (config : QueueConfig) : (create config : Interplay α).Announced :=
  ⟨.running, rfl⟩

theorem create_attentive (config : QueueConfig) : (create config : Interplay α).Attentive where
  asked noticed := by cases noticed
  aware heads := by cases heads
  noticed member := by cases member with | tail _ rest => cases rest
  heading noticed := by cases noticed

variable [Queued α]

theorem advance_announced {state : Interplay α} {stride : Stride (Call α)} (sound : state.Sound)
    (advance : Advance state.view state.host.worker state.channel stride)
    (announced : state.Announced) : (state.advance stride).Announced where
  course := by
    rw [advance_states]
    exact advance.course sound.lifecycle announced.course
  drains := by
    rw [advance_states, advance_events, List.count_append, List.count_append, announced.drains,
      advance.drains]

theorem advance_attentive {state : Interplay α} {stride : Stride (Call α)} (sound : state.Sound)
    (announced : state.Announced)
    (advance : Advance state.view state.host.worker state.channel stride)
    (attentive : state.Attentive) : (state.advance stride).Attentive := by
  obtain ⟨asked, aware, noticed, heading⟩ := attentive
  cases advance with
  | announce phase isNew =>
    rw [WorkerState.canTransition_draining_iff] at isNew
    constructor <;> simp_all [Phase.headsForDraining]
  | resume phase before =>
    have draining := sound.lifecycle.draining_of_resume phase before
    have member : .draining ∈ state.record.states := by
      have course := announced.course
      rw [draining] at course
      exact course.draining_mem
    constructor <;> simp_all [Stride.plain, Phase.headsForDraining]
  | _ => constructor <;> simp_all [Stride.plain, Worker.notices, Phase.headsForDraining]

theorem announced_invariant : Invariant (Announced : Interplay α → Prop) where
  traffic _ _ _ announced := ⟨announced.course, announced.drains⟩
  stop _ _ announced := ⟨announced.course, announced.drains⟩
  conclude state result _ announced := by
    unfold conclude
    split
    · exact ⟨announced.course, announced.drains⟩
    · exact announced
  elapse _ _ _ announced := ⟨announced.course, announced.drains⟩
  advance _ _ reached advance announced := advance_announced reached.sound advance announced
  collapse _ _ _ _ _ announced := ⟨announced.course, announced.drains⟩

theorem Reached.announced {state : Interplay α} (reached : state.Reached) : state.Announced :=
  announced_invariant.reached create_announced reached

theorem attentive_invariant : Invariant (Attentive : Interplay α → Prop) where
  traffic _ _ _ attentive :=
    ⟨attentive.asked, attentive.aware, attentive.noticed, attentive.heading⟩
  stop state _ attentive := by
    refine ⟨fun _ => rfl, ?_, attentive.noticed, ?_⟩
    · intro heads elsewhere
      apply attentive.aware _ elsewhere
      cases phase : state.host.worker.phase <;>
        simp_all [step, Host.requestStop, Phase.headsForDraining]
    · intro noticed
      refine (attentive.heading noticed).imp_right fun heads => ?_
      cases phase : state.host.worker.phase <;>
        simp_all [step, Host.requestStop, Phase.headsForDraining]
  conclude state result _ attentive := by
    unfold conclude
    split
    · exact ⟨attentive.asked, attentive.aware, attentive.noticed, attentive.heading⟩
    · exact attentive
  elapse _ _ _ attentive :=
    ⟨attentive.asked, attentive.aware, attentive.noticed, attentive.heading⟩
  advance _ _ reached advance attentive :=
    advance_attentive reached.sound reached.announced advance attentive
  collapse state count message _ phase attentive := by
    refine ⟨attentive.asked, ?_, attentive.noticed, ?_⟩
    · intro heads
      cases heads
    · intro noticed
      have heading := attentive.heading noticed
      rw [phase] at heading
      exact heading.imp_right fun heads => by cases heads

theorem Reached.attentive {state : Interplay α} (reached : state.Reached) : state.Attentive :=
  attentive_invariant.reached create_attentive reached

/-! ## Progress -/

theorem published_invariant (earlier : Interplay α) :
    Invariant fun state : Interplay α => earlier.record.published <+: state.record.published where
  traffic _ _ _ grown := grown
  stop _ _ grown := grown
  conclude state result _ grown := by
    unfold conclude
    split <;> exact grown
  elapse _ _ _ grown := grown
  advance _ _ _ _ grown := List.IsPrefix.trans grown (List.prefix_append _ _)
  collapse _ _ _ _ _ grown := grown

/-- What was published is not taken back. -/
theorem run_published {state : Interplay α} (reached : state.Reached) (moves : List (Move α)) :
    state.record.published <+: (state.run moves).record.published :=
  (published_invariant state).run reached List.prefix_rfl moves

theorem draining_of_run {state : Interplay α} (reached : state.Reached) (moves : List (Move α))
    (draining : .draining ∈ state.record.states) :
    .draining ∈ (state.run moves).record.states :=
  ((run_published reached moves).map Prod.snd).subset draining

theorem noticed_invariant : Invariant fun state : Interplay α => state.record.noticed = true where
  traffic _ _ _ noticed := noticed
  stop _ _ noticed := noticed
  conclude state result _ noticed := by
    unfold conclude
    split <;> exact noticed
  elapse _ _ _ noticed := noticed
  advance state stride _ _ noticed := by simp [noticed]
  collapse _ _ _ _ _ noticed := noticed

/-- A worker on its way to draining never waits. -/
theorem step_ne_none_of_heads {worker : Worker (Call α)} {view : Surroundings}
    {channel : Channel (Call α)} {stopping : Bool}
    (heads : worker.phase.headsForDraining stopping = true) :
    worker.step view channel ≠ none := by
  unfold Worker.step
  cases phase : worker.phase with
  | leaving => cases view.stopping <;> simp [Worker.moveTo]
  | closing flight => simp [Worker.close]
  | announcing flight =>
    cases flight <;> simp only [Worker.announce, Worker.moveTo] <;> split <;> simp
  | _ => simp [phase, Phase.headsForDraining] at heads

/-- Every step of the worker brings it nearer to draining. -/
theorem work_nears {state : Interplay α} (reached : state.Reached)
    (heads : state.host.worker.phase.headsForDraining state.host.stopping = true)
    (mishap : Option String) :
    .draining ∈ (state.work mishap).record.states ∨
      (state.work mishap).host.worker.phase.stepsToDraining + 1 =
        state.host.worker.phase.stepsToDraining := by
  rcases state.work_cases mishap with ⟨stuck, _⟩ |
    ⟨stride, advance, _, same | ⟨_, message, discards, _⟩⟩
  · exact absurd stuck (step_ne_none_of_heads heads)
  · rw [same]
    cases advance with
    | obey phase stopping => exact Or.inr (by simp [phase, Stride.plain, Phase.stepsToDraining])
    | close phase => exact Or.inr (by simp [phase, Phase.stepsToDraining])
    | announce phase isNew =>
      rw [WorkerState.canTransition_draining_iff] at isNew
      exact Or.inl (by simp [isNew])
    | resume phase before =>
      have draining := reached.sound.lifecycle.draining_of_resume phase before
      have course := reached.announced.course
      rw [draining] at course
      exact Or.inl (by simp [Stride.plain, course.draining_mem])
    | _ => simp_all [Phase.headsForDraining]
  · cases advance with
    | discard phase received => simp [phase, Phase.headsForDraining] at heads
    | _ => simp [Stride.plain] at discards

/-- After a request to stop is noticed, draining is a matter of a few steps. -/
theorem run_draining {state : Interplay α} (reached : state.Reached)
    (noticed : state.record.noticed = true) (moves : List (Move α))
    (enough : state.host.worker.phase.stepsToDraining ≤ moves.countP Move.isWork) :
    .draining ∈ (state.run moves).record.states := by
  induction moves generalizing state with
  | nil =>
    refine (reached.attentive.heading noticed).resolve_right fun heads => ?_
    cases phase : state.host.worker.phase <;>
      simp_all [Phase.headsForDraining, Phase.stepsToDraining]
  | cons move rest inductionHypothesis =>
    have onward := inductionHypothesis (reached.step move)
      (noticed_invariant.step reached noticed move)
    rcases reached.attentive.heading noticed with draining | heads
    · exact draining_of_run reached (move :: rest) draining
    · cases working : move.isWork with
      | false =>
        apply onward
        rw [step_worker state working]
        simpa [working] using enough
      | true =>
        cases move with
        | work mishap =>
          rcases work_nears reached heads mishap with draining | nearer
          · exact draining_of_run (reached.step (.work mishap)) rest draining
          · apply onward
            simp only [List.countP_cons, working, if_true] at enough
            simp only [step]
            omega
        | _ => cases working

end Interplay

end WorkHost
