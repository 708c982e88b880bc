import WorkHost.Proofs.Host.Lifecycle

/-!
Contract: no item is lost and none is used twice.

What was accepted is at any time what was dequeued, then what was discarded, then what
is buffered, in the order of acceptance (`Conserved`). Calls are told apart by their
numbers, so an item's call occurs in one of the three, and once.
-/

namespace WorkHost

/-- How many items a worker in a phase has discarded, and the counts it has reported. -/
def Phase.Tally {β : Type} (phase : Phase β) (discarded : List β) (counts : List Nat) : Prop :=
  match phase with
  | .discarding count | .summing count => discarded.length = count ∧ counts = []
  | .finishing | .ended => counts = if discarded.length = 0 then [] else [discarded.length]
  | .dead _ => counts = []
  | _ => discarded = [] ∧ counts = []

namespace Advance

variable {β : Type} [Queued β] {view : Surroundings} {worker : Worker β} {channel : Channel β}
  {stride : Stride β}

/-- What is taken out of the buffer is held or dropped. -/
theorem received (advance : Advance view worker channel stride) :
    stride.received = stride.worker.phase.held ++ Command.dropped stride.command := by
  cases advance with
  | announce phase isNew | resume phase before =>
    rename_i flight
    cases flight <;> rfl
  | _ => rfl

/-- The item that was held is the one that is started. -/
theorem held (advance : Advance view worker channel stride) :
    worker.phase.held = Command.launched stride.command := by
  cases advance <;> simp_all [Phase.held, Command.launched, Stride.plain]

/-- A start comes with its event. -/
theorem startedIds (advance : Advance view worker channel stride) :
    (Report.events stride.reports).filterMap EventKind.startedId? =
      (Command.launched stride.command).map Queued.id := by
  cases advance with
  | sum phase =>
    rename_i count
    by_cases nothing : count = 0 <;>
      simp [Stride.plain, nothing, Command.launched, EventKind.startedId?]
  | report phase => simp [Command.launched]
  | _ => simp [Stride.plain, Command.launched, EventKind.startedId?, Flight.ofItem]

theorem tally {discarded : List β} {counts : List Nat}
    (advance : Advance view worker channel stride)
    (tally : worker.phase.Tally discarded counts) :
    stride.worker.phase.Tally (discarded ++ Command.dropped stride.command)
      (counts ++ (Report.events stride.reports).filterMap EventKind.discardCount?) := by
  cases advance with
  | sum phase =>
    rename_i count
    by_cases nothing : count = 0 <;>
      simp_all [Phase.Tally, Stride.plain, Command.dropped, EventKind.discardCount?]
  | announce phase isNew | resume phase before =>
    rename_i flight
    cases flight <;>
      simp_all [Phase.Tally, Stride.plain, Command.dropped, EventKind.discardCount?,
        Phase.afterAnnouncing]
  | report phase => simp_all [Phase.Tally, Command.dropped]
  | _ => simp_all [Phase.Tally, Stride.plain, Command.dropped, EventKind.discardCount?]

end Advance

namespace Interplay

variable {α : Type} [Queued α]

/-- Where the accepted items are. -/
structure Conserved (state : Interplay α) : Prop where
  accepted : state.callers.accepted =
    state.record.taken ++ state.record.discarded ++ state.channel.buffer
  taken : state.record.taken = state.record.started ++ state.host.worker.phase.held
  tally : state.host.worker.phase.Tally state.record.discarded
    (state.record.events.filterMap EventKind.discardCount?)
  startedIds : state.record.events.filterMap EventKind.startedId? =
    state.record.started.map Queued.id

theorem create_conserved (config : QueueConfig) : (create config : Interplay α).Conserved :=
  ⟨rfl, rfl, ⟨rfl, rfl⟩, rfl⟩

/-- As long as items are dequeued, none is discarded. -/
theorem discarded_of_advance {view : Surroundings} {worker : Worker (Call α)}
    {channel : Channel (Call α)} {stride : Stride (Call α)} {discarded : List (Call α)}
    {counts : List Nat} (advance : Advance view worker channel stride)
    (tally : worker.phase.Tally discarded counts) :
    stride.worker.phase.held = [] ∨ discarded = [] := by
  cases advance with
  | take phase calm received =>
    rw [phase] at tally
    exact Or.inr tally.1
  | announce phase isNew | resume phase before =>
    rename_i flight
    cases flight <;> exact Or.inl rfl
  | _ => exact Or.inl rfl

theorem advance_conserved {state : Interplay α} {stride : Stride (Call α)}
    (advance : Advance state.view state.host.worker state.channel stride)
    (conserved : state.Conserved) : (state.advance stride).Conserved where
  accepted := by
    have buffer := advance.buffer
    rw [advance.received] at buffer
    have accepted := conserved.accepted
    rw [buffer] at accepted
    rw [advance_taken, advance_discarded, advance_channel]
    show state.callers.accepted = _
    rw [accepted]
    rcases discarded_of_advance advance conserved.tally with nothing | nothing
    · simp [nothing]
    · simp [nothing]
  taken := by
    rw [advance_taken, advance_started, conserved.taken, advance.held]
    rfl
  tally := by
    rw [advance_events, List.filterMap_append]
    exact advance.tally conserved.tally
  startedIds := by
    rw [advance_events, List.filterMap_append, conserved.startedIds, advance.startedIds,
      advance_started, List.map_append]

theorem conserved_invariant : Invariant (Conserved : Interplay α → Prop) where
  traffic state move _ conserved := by
    obtain ⟨items, effect⟩ := state.traffic.step_effect move
    refine ⟨?_, conserved.taken, conserved.tally, conserved.startedIds⟩
    show (state.traffic.step move).callers.accepted =
      _ ++ (state.traffic.step move).queue.channel.buffer
    rw [effect.accepted, effect.buffer]
    show state.callers.accepted ++ _ = _ ++ (state.channel.buffer ++ _)
    rw [conserved.accepted, List.append_assoc]
    rfl
  stop _ _ conserved :=
    ⟨conserved.accepted, conserved.taken, conserved.tally, conserved.startedIds⟩
  conclude state result _ conserved := by
    unfold conclude
    split
    · have started : (state.record.lives.update fun life =>
          { life with ending := some (state.now, result) }).toList.map Life.call =
            state.record.started := state.record.lives.calls_update fun _ => rfl
      refine ⟨conserved.accepted, ?_, conserved.tally, ?_⟩
      · exact conserved.taken.trans (congrArg (· ++ _) started.symm)
      · exact conserved.startedIds.trans (congrArg (List.map Queued.id) started.symm)
    · exact conserved
  elapse _ _ _ conserved :=
    ⟨conserved.accepted, conserved.taken, conserved.tally, conserved.startedIds⟩
  advance _ _ _ advance conserved := advance_conserved advance conserved
  collapse state count message _ phase conserved := by
    obtain ⟨accepted, taken, tally, startedIds⟩ := conserved
    rw [phase] at taken tally
    refine ⟨?_, taken, tally.2, startedIds⟩
    show state.callers.accepted = state.record.taken ++ (_ ++ state.channel.buffer) ++ []
    rw [accepted, List.append_nil, List.append_assoc]

theorem Reached.conserved {state : Interplay α} (reached : state.Reached) : state.Conserved :=
  conserved_invariant.reached create_conserved reached

/-- The numbers of the calls whose items were started and of those whose items were
dropped are numbers of accepted calls, each once. -/
theorem Conserved.numbers_nodup {state : Interplay α} (sound : state.Sound)
    (conserved : state.Conserved) :
    (state.record.started.map Call.number ++ state.record.discarded.map Call.number).Nodup := by
  have apart := Callers.accepted_nodup sound.numbered
  rw [conserved.accepted, conserved.taken] at apart
  simp only [List.map_append] at apart
  apply List.Sublist.nodup _ apart
  rw [List.append_assoc, List.append_assoc]
  apply List.Sublist.append_left
  exact (List.sublist_append_left _ _).trans (List.sublist_append_right _ _)

theorem Conserved.mem_accepted {state : Interplay α} (conserved : state.Conserved)
    {call : Call α} (used : call ∈ state.record.started ∨ call ∈ state.record.discarded) :
    call ∈ state.callers.accepted := by
  rw [conserved.accepted, conserved.taken]
  simp only [List.mem_append]
  tauto

/-- A call that returned an error is not among those whose items are in use. -/
theorem Conserved.refused {state : Interplay α} (sound : state.Sound)
    (conserved : state.Conserved) {call : Call α} {failure : Failure}
    (returned : (call, .error failure) ∈ state.callers.returned) :
    call.number ∉ state.record.started.map Call.number ∧
      call.number ∉ state.record.discarded.map Call.number := by
  have unused : ∀ other ∈ state.callers.accepted, other.number ≠ call.number := by
    intro other member same
    obtain ⟨id, accepted⟩ := Callers.mem_accepted.mp member
    have equal := Callers.returned_eq sound.numbered accepted returned same
    simp at equal
  constructor
  · intro member
    obtain ⟨other, used, same⟩ := List.mem_map.mp member
    exact unused other (conserved.mem_accepted (Or.inl used)) same
  · intro member
    obtain ⟨other, used, same⟩ := List.mem_map.mp member
    exact unused other (conserved.mem_accepted (Or.inr used)) same

theorem Conserved.accepted_of_stopped {state : Interplay α} (sound : state.Sound)
    (conserved : state.Conserved) (stopped : state.host.worker.state = .stopped) :
    state.callers.accepted = state.record.started ++ state.record.discarded := by
  have phase := sound.lifecycle.ended_of_stopped stopped
  rw [conserved.accepted, conserved.taken, sound.lifecycle.buffer_of_stopped stopped, phase]
  simp [Phase.held]

theorem Conserved.discardEvents_of_stopped {state : Interplay α} (sound : state.Sound)
    (conserved : state.Conserved) (stopped : state.host.worker.state = .stopped) :
    state.record.events.filterMap EventKind.discardCount? =
      if state.record.discarded.length = 0 then [] else [state.record.discarded.length] := by
  have tally := conserved.tally
  rw [sound.lifecycle.ended_of_stopped stopped] at tally
  exact tally

/-- A call that has failed leaves nothing behind, and once the worker has stopped, each
call that has succeeded stands for one start or one discarded item. -/
theorem work_conserved (config : QueueConfig) (moves : List (Move α)) :
    let reached := (create config).run moves
    let started := reached.record.started.map Call.number
    let discarded := reached.record.discarded.map Call.number
    let startEvents := reached.record.events.filterMap EventKind.startedId?
    let discardEvents := reached.record.events.filterMap EventKind.discardCount?
    startEvents = reached.record.started.map Queued.id ∧
      (∀ call failure, (call, .error failure) ∈ reached.callers.returned →
        call.number ∉ started ∧ call.number ∉ discarded) ∧
      (∀ call id, (call, .ok id) ∈ reached.callers.returned → started.count call.number ≤ 1) ∧
      (reached.host.worker.state = .stopped →
        (∀ call id, (call, .ok id) ∈ reached.callers.returned →
          started.count call.number + discarded.count call.number = 1) ∧
        discardEvents = (if discarded.length = 0 then [] else [discarded.length]) ∧
        (reached.callers.returned.countP fun entry => entry.2.isOk) =
          startEvents.length + discardEvents.headD 0) := by
  intro reached started discarded startEvents discardEvents
  have sound : reached.Sound := run_sound config moves
  have conserved : reached.Conserved := (reached_run config moves).conserved
  have apart : (started ++ discarded).Nodup := conserved.numbers_nodup sound
  refine ⟨conserved.startedIds, fun call failure => conserved.refused sound, ?_, ?_⟩
  · intro call id _
    exact List.nodup_iff_count_le_one.mp (List.nodup_append.mp apart).1 _
  · intro stopped
    have accepted := conserved.accepted_of_stopped sound stopped
    have discards : discardEvents = if discarded.length = 0 then [] else [discarded.length] := by
      rw [List.length_map]
      exact conserved.discardEvents_of_stopped sound stopped
    refine ⟨?_, discards, ?_⟩
    · intro call id returned
      have member : call ∈ reached.record.started ++ reached.record.discarded :=
        accepted ▸ Callers.mem_accepted.mpr ⟨id, returned⟩
      rw [← List.count_append]
      apply List.count_eq_one_of_mem apart
      rw [← List.map_append]
      exact List.mem_map_of_mem member
    · rw [← Callers.length_accepted, accepted, List.length_append]
      have starts : startEvents.length = reached.record.started.length :=
        (congrArg List.length conserved.startedIds).trans (List.length_map _)
      have drops : discardEvents.headD 0 = reached.record.discarded.length := by
        rw [discards, List.length_map]
        split <;> simp_all
      rw [starts, drops]

end Interplay

end WorkHost
