import WorkHost.Proofs.Queue.Lineup

/-!
Contract: places are given out in the order of arrival.

The next place goes to the head of the line, and to a new call only if there is no line
(`Traffic.step_placing`). So over a whole run the calls that get a place, waiting or not, get
it one after the other in the order in which they were made (`Delivery.run_admissions`).
-/

namespace WorkHost

namespace Channel

variable {α : Type}

/-- Whoever is given a place stood at the head of the line. -/
theorem mem_granted_of_grant {channel : Channel α} {ticket : Ticket}
    (member : ticket ∈ channel.grant.2.granted) :
    ticket ∈ channel.granted ∨ channel.waiting.head? = some ticket := by
  unfold grant at member
  split at member
  · exact Or.inl member
  · rename_i first rest waiting
    rcases List.mem_append.mp member with old | new
    · exact Or.inl old
    · rw [List.mem_singleton.mp new, waiting]
      exact Or.inr rfl

theorem mem_granted_of_withdraw {channel : Channel α} {leaver ticket : Ticket}
    (member : ticket ∈ (channel.withdraw leaver).2.granted) :
    ticket ∈ channel.granted ∨ channel.waiting.head? = some ticket := by
  unfold withdraw at member
  split at member
  · exact (mem_granted_of_grant member).imp_left List.mem_of_mem_erase
  · exact Or.inl member

theorem mem_granted_of_receive {channel : Channel α} {ticket : Ticket}
    (member : ticket ∈ channel.receive.2.2.granted) :
    ticket ∈ channel.granted ∨ channel.waiting.head? = some ticket := by
  unfold receive at member
  split at member
  · rename_i first rest buffer
    exact @mem_granted_of_grant _ { channel with buffer := rest } _ member
  · split at member
    · exact Or.inl member
    · exact Or.inl member

theorem grant_waiting_subset (channel : Channel α) :
    channel.grant.2.waiting ⊆ channel.waiting := by
  unfold grant
  split
  · exact List.Subset.refl _
  · rename_i ticket rest waiting
    rw [waiting]
    exact List.subset_cons_self ticket rest

theorem withdraw_waiting_subset (channel : Channel α) (ticket : Ticket) :
    (channel.withdraw ticket).2.waiting ⊆ channel.waiting := by
  unfold withdraw
  split
  · exact grant_waiting_subset _
  · exact List.erase_subset

theorem receive_waiting_subset (channel : Channel α) :
    channel.receive.2.2.waiting ⊆ channel.waiting := by
  unfold receive
  split
  · exact grant_waiting_subset _
  · split
    · exact List.Subset.refl _
    · exact List.Subset.refl _

theorem receive_of_nobody (channel : Channel α) (nobody : channel.waiting = []) :
    channel.receive.2.2.granted = channel.granted ∧ channel.receive.2.2.waiting = [] := by
  unfold receive grant
  split
  · simp [nobody]
  · split
    · exact ⟨rfl, nobody⟩
    · exact ⟨rfl, nobody⟩

/-- What closing brings about and receiving keeps holds after everything was discarded. -/
theorem closeAndDiscard_keeps {Keeps : Channel α → Prop}
    (receiveKeeps : ∀ channel, Keeps channel → Keeps channel.receive.2.2)
    {channel : Channel α} (closed : Keeps channel.close.2) :
    Keeps channel.closeAndDiscard.2 := by
  have receives : ∀ count channel, Keeps channel →
      Keeps (channel.handleAll (List.replicate count .receive)) := by
    intro count
    induction count with
    | zero => exact fun _ holds => holds
    | succ count inductionHypothesis =>
      exact fun channel holds => inductionHypothesis _ (receiveKeeps channel holds)
  rw [closeAndDiscard_eq]
  exact receives _ _ closed

end Channel

/-- A first answer: the call has a place at once, ends, or joins the line. -/
structure Entered {β : Type} (queue : TaskQueue β) (ticket : Ticket) (item : β)
    (progress : Enqueueing) (next : TaskQueue β) : Prop where
  granted : next.channel.granted = queue.channel.granted
  waiting : ∀ number ∈ next.channel.waiting, number ∈ queue.channel.waiting ∨ number = ticket
  roomy : progress.admitted item ≠ [] → queue.channel.isFull = false
  crowded : progress = .waiting → queue.channel.closed = false ∧ queue.channel.isFull = true

/-- A later answer: only a call that has a place succeeds. -/
structure Resumed {β : Type} (queue : TaskQueue β) (ticket : Ticket) (item : β)
    (progress : Enqueueing) (next : TaskQueue β) : Prop where
  granted : ∀ number ∈ next.channel.granted,
    number ∈ queue.channel.granted ∨ queue.channel.waiting.head? = some number
  waiting : next.channel.waiting ⊆ queue.channel.waiting
  placed : progress.admitted item ≠ [] → ticket ∈ queue.channel.granted

theorem Entered.ended {β : Type} {queue next : TaskQueue β} {ticket : Ticket} {item : β}
    {failure : Failure} (same : next.channel = queue.channel) :
    Entered queue ticket item (.done (.error failure)) next where
  granted := congrArg Channel.granted same
  waiting _ member := Or.inl (same ▸ member)
  roomy something := absurd rfl something
  crowded := nofun

namespace TaskQueue

variable {β : Type} [Queued β] (queue : TaskQueue β) (ticket : Ticket) (item : β)

theorem tryEnqueue_entered :
    Entered queue ticket item (queue.tryEnqueue item).1 (queue.tryEnqueue item).2 := by
  unfold tryEnqueue Channel.trySend
  by_cases shut : queue.channel.closed = true
  · rw [if_pos shut]
    exact .ended rfl
  · rw [if_neg shut]
    by_cases full : queue.channel.isFull = true
    · rw [if_pos full]
      exact .ended rfl
    · rw [if_neg full]
      exact ⟨rfl, fun _ member => Or.inl member, fun _ => by simpa using full, nofun⟩

theorem enqueue_entered :
    Entered queue ticket item (queue.enqueue ticket item).1 (queue.enqueue ticket item).2 := by
  unfold enqueue
  cases queue.policy with
  | reject => exact queue.tryEnqueue_entered ticket item
  | wait =>
    unfold Channel.send
    by_cases shut : queue.channel.closed = true
    · rw [if_pos shut]
      exact .ended rfl
    · rw [if_neg shut]
      by_cases full : queue.channel.isFull = true
      · rw [if_pos full]
        refine ⟨rfl, fun number member => ?_, fun something => absurd rfl something,
          fun _ => ⟨by simpa using shut, full⟩⟩
        exact (List.mem_append.mp member).imp_right List.mem_singleton.mp
      · rw [if_neg full]
        exact ⟨rfl, fun _ member => Or.inl member, fun _ => by simpa using full, nofun⟩

theorem enqueueWithCancel_entered (cancelled : Bool) :
    Entered queue ticket item (queue.enqueueWithCancel ticket cancelled item).1
      (queue.enqueueWithCancel ticket cancelled item).2 := by
  unfold enqueueWithCancel
  cases queue.policy with
  | reject => exact queue.tryEnqueue_entered ticket item
  | wait =>
    cases cancelled with
    | true => exact .ended rfl
    | false => exact queue.enqueue_entered ticket item

theorem resumeWithCancel_resumed (cancelled : Bool) :
    Resumed queue ticket item (queue.resumeWithCancel ticket cancelled item).1
      (queue.resumeWithCancel ticket cancelled item).2.2 := by
  have withdrawn : ∀ progress : Enqueueing, progress.admitted item = [] →
      Resumed queue ticket item progress (queue.withdraw ticket).2 := fun progress nothing =>
    ⟨fun _ => Channel.mem_granted_of_withdraw, Channel.withdraw_waiting_subset _ _,
      fun something => absurd nothing something⟩
  unfold resumeWithCancel
  cases cancelled with
  | true => exact withdrawn _ rfl
  | false =>
    unfold resume Channel.resume
    by_cases shut : queue.channel.closed = true
    · rw [if_pos shut]
      exact withdrawn _ rfl
    · rw [if_neg shut]
      by_cases placed : queue.channel.granted.contains ticket = true
      · rw [if_pos placed]
        exact ⟨fun number member => Or.inl (List.mem_of_mem_erase member), List.Subset.refl _,
          fun _ => by simpa using placed⟩
      · rw [if_neg placed]
        exact ⟨fun number member => Or.inl member, List.Subset.refl _,
          fun something => absurd rfl something⟩

end TaskQueue

theorem Traffic.attempt_entered {α : Type} [Queued α] (traffic : Traffic α) (route : Route)
    (call : Call α) :
    Entered traffic.queue call.number call (traffic.attempt route call).1
      (traffic.attempt route call).2 := by
  cases route with
  | waiting => exact traffic.queue.enqueue_entered call.number call
  | cancellable token => exact traffic.queue.enqueueWithCancel_entered call.number call _
  | immediate => exact traffic.queue.tryEnqueue_entered call.number call

namespace Traffic

variable {α : Type}

/-- The calls that have got a place, used or not, by their numbers. -/
def placed (traffic : Traffic α) : List Ticket :=
  traffic.callers.accepted.map Call.number ++ traffic.queue.channel.granted

/-- The call to which the next place goes: the head of the line, else a new call. -/
def next (traffic : Traffic α) : Ticket :=
  traffic.queue.channel.waiting.headD traffic.callers.issued

/-- What a step may do to the line and to those who have a place. -/
structure Placing (before after : Traffic α) : Prop where
  placed : ∀ number ∈ after.placed, number ∈ before.placed ∨ number = before.next
  waiting : ∀ number ∈ after.queue.channel.waiting,
    number ∈ before.queue.channel.waiting ∨ number = before.callers.issued
  issued : before.callers.issued ≤ after.callers.issued

theorem next_of_head? {traffic : Traffic α} {number : Ticket}
    (head : traffic.queue.channel.waiting.head? = some number) : number = traffic.next := by
  rw [next, List.headD_eq_head?_getD, head]
  rfl

theorem next_of_nobody {traffic : Traffic α} (nobody : traffic.queue.channel.waiting = []) :
    traffic.next = traffic.callers.issued := by
  rw [next, nobody]
  rfl

namespace Placing

variable {traffic : Traffic α} {waiter : Waiter α} {progress : Enqueueing}
  {queue : TaskQueue (Call α)}

theorem enter (entered : Entered traffic.queue waiter.call.number waiter.call progress queue)
    (isNew : waiter.call.number = traffic.callers.issued)
    (busy : traffic.queue.channel.waiting ≠ [] → traffic.queue.channel.isFull = true) :
    Placing traffic ⟨queue, traffic.callers.enter waiter progress⟩ := by
  refine ⟨?_, isNew ▸ entered.waiting, ?_⟩
  · intro number member
    rcases List.mem_append.mp member with used | unused
    · obtain ⟨call, accepted, rfl⟩ := List.mem_map.mp used
      rw [Callers.accepted_enter] at accepted
      rcases List.mem_append.mp accepted with old | new
      · exact Or.inl (List.mem_append_left _ (List.mem_map_of_mem old))
      · have nobody : traffic.queue.channel.waiting = [] := by
          by_contra someone
          have roomy := entered.roomy (List.ne_nil_of_mem new)
          simp [busy someone] at roomy
        rw [Callers.mem_admitted new, next_of_nobody nobody]
        exact Or.inr isNew
    · exact Or.inl (List.mem_append_right _ (entered.granted ▸ unused))
  · rw [Callers.issued_enter]
    exact Nat.le_succ _

/-- A move that makes no call and takes nobody in who had no place. -/
theorem keep {callers : Callers α}
    (accepted : ∀ call ∈ callers.accepted,
      call ∈ traffic.callers.accepted ∨ call.number ∈ traffic.queue.channel.granted)
    (granted : ∀ number ∈ queue.channel.granted, number ∈ traffic.queue.channel.granted ∨
      traffic.queue.channel.waiting.head? = some number)
    (waiting : queue.channel.waiting ⊆ traffic.queue.channel.waiting)
    (issued : callers.issued = traffic.callers.issued) : Placing traffic ⟨queue, callers⟩ where
  placed number member := by
    rcases List.mem_append.mp member with used | unused
    · obtain ⟨call, isAccepted, rfl⟩ := List.mem_map.mp used
      rcases accepted call isAccepted with old | granted
      · exact Or.inl (List.mem_append_left _ (List.mem_map_of_mem old))
      · exact Or.inl (List.mem_append_right _ granted)
    · exact (granted number unused).imp (List.mem_append_right _) next_of_head?
  waiting _ member := Or.inl (waiting member)
  issued := Nat.le_of_eq issued.symm

theorem proceed (resumed : Resumed traffic.queue waiter.call.number waiter.call progress queue) :
    Placing traffic ⟨queue, traffic.callers.proceed waiter progress⟩ := by
  refine keep ?_ resumed.granted resumed.waiting (Callers.issued_proceed _ _ _)
  intro call accepted
  rw [Callers.accepted_proceed] at accepted
  rcases List.mem_append.mp accepted with old | new
  · exact Or.inl old
  · rw [Callers.mem_admitted new]
    exact Or.inr (resumed.placed (List.ne_nil_of_mem new))

/-- A move of the receiver, or of the handles. -/
theorem setChannel {channel : Channel (Call α)}
    (granted : ∀ number ∈ channel.granted, number ∈ traffic.queue.channel.granted ∨
      traffic.queue.channel.waiting.head? = some number)
    (waiting : channel.waiting ⊆ traffic.queue.channel.waiting) :
    Placing traffic { traffic with queue := { traffic.queue with channel } } :=
  keep (fun _ => Or.inl) granted waiting rfl

theorem refl (traffic : Traffic α) : Placing traffic traffic :=
  ⟨fun _ => Or.inl, fun _ => Or.inl, Nat.le_refl _⟩

end Placing

variable [Queued α]

/-- A place goes to the head of the line, and to a new call only if there is no line. -/
theorem step_placing {traffic : Traffic α}
    (busy : traffic.queue.channel.waiting ≠ [] → traffic.queue.channel.isFull = true)
    (move : Move α) : Placing traffic (traffic.step move) := by
  cases move with
  | call route item =>
    simp only [step]
    split
    · exact .refl traffic
    · exact .enter (traffic.attempt_entered route _) rfl busy
  | look number =>
    simp only [step]
    cases traffic.callers.find? number with
    | none => exact .refl traffic
    | some waiter => exact .proceed (traffic.queue.resumeWithCancel_resumed _ _ _)
  | abandon number =>
    simp only [step]
    cases traffic.callers.find? number with
    | none => exact .refl traffic
    | some waiter =>
      exact .keep (fun _ => Or.inl) (fun _ => Channel.mem_granted_of_withdraw)
        (Channel.withdraw_waiting_subset _ _) rfl
  | fire token => exact .keep (fun _ => Or.inl) (fun _ => Or.inl) (List.Subset.refl _) rfl
  | cloneHandle =>
    simp only [step]
    split
    · exact .refl traffic
    · exact .setChannel (fun _ => Or.inl) (List.Subset.refl _)
  | dropHandle =>
    simp only [step]
    split
    · exact .refl traffic
    · exact .setChannel (fun _ => Or.inl) (List.Subset.refl _)

end Traffic

namespace Delivery

variable {α : Type}

theorem dequeue_traffic (state : Delivery α) (stopping : Bool) :
    (state.dequeue stopping).traffic =
      state.traffic.setChannel (state.channel.dequeue stopping).2.2 := by
  unfold dequeue
  split
  · rename_i call woken next received
    rw [received]
    rfl
  · rename_i answer woken next nothing received
    rw [received]

/-- What holds among the callers of a queue in every run. -/
structure Attended (state : Delivery α) : Prop where
  numbered : state.callers.Numbered
  orderly : Traffic.Orderly state.channel state.callers
  lined : state.traffic.Lined
  metered : ∃ metered, Meters metered state.channel

namespace Attended

variable {state : Delivery α}

theorem busy (attended : state.Attended) (someone : state.channel.waiting ≠ []) :
    state.channel.isFull = true := by
  obtain ⟨metered, meters⟩ := attended.metered
  exact meters.isFull_iff.mpr (meters.busy someone)

/-- Whoever has a place and whoever stands in line are different calls. -/
theorem placed_sublist (attended : state.Attended) :
    (state.traffic.placed ++ state.channel.waiting).Sublist state.callers.numbers := by
  rw [Traffic.placed, List.append_assoc]
  exact state.callers.accepted_sublist.append attended.orderly.lineup

theorem placed_nodup (attended : state.Attended) : state.traffic.placed.Nodup :=
  (List.nodup_append.mp (attended.placed_sublist.nodup attended.numbered.distinct)).1

theorem placed_lt_issued (attended : state.Attended) {number : Ticket}
    (member : number ∈ state.traffic.placed) : number < state.callers.issued :=
  attended.numbered.below number
    (attended.placed_sublist.subset (List.mem_append_left _ member))

theorem waiting_lt_issued (attended : state.Attended) {number : Ticket}
    (member : number ∈ state.channel.waiting) : number < state.callers.issued :=
  attended.numbered.below number
    (attended.placed_sublist.subset (List.mem_append_right _ member))

theorem next_le_waiting (attended : state.Attended) {number : Ticket}
    (member : number ∈ state.channel.waiting) : state.traffic.next ≤ number := by
  have sorted : state.channel.waiting.Pairwise (· < ·) :=
    (List.pairwise_append.mp attended.orderly.lineup_sorted).2.1
  show state.channel.waiting.headD _ ≤ number
  cases waiting : state.channel.waiting with
  | nil => simp [waiting] at member
  | cons first rest =>
    rw [waiting] at member sorted
    rcases List.mem_cons.mp member with rfl | later
    · exact Nat.le_refl _
    · exact Nat.le_of_lt ((List.pairwise_cons.mp sorted).1 number later)

theorem next_mem (state : Delivery α) :
    state.traffic.next ∈ state.channel.waiting ∨
      state.traffic.next = state.callers.issued := by
  show state.channel.waiting.headD _ ∈ _ ∨ state.channel.waiting.headD _ = _
  cases state.channel.waiting with
  | nil => exact Or.inr rfl
  | cons first rest => exact Or.inl List.mem_cons_self

theorem next_le_issued (attended : state.Attended) :
    state.traffic.next ≤ state.callers.issued := by
  rcases next_mem state with inLine | isNew
  · exact Nat.le_of_lt (attended.waiting_lt_issued inLine)
  · exact Nat.le_of_eq isNew

theorem next_not_mem_placed (attended : state.Attended) :
    state.traffic.next ∉ state.traffic.placed := by
  intro member
  rcases next_mem state with inLine | isNew
  · have distinct := attended.placed_sublist.nodup attended.numbered.distinct
    exact (List.nodup_append.mp distinct).2.2 _ member _ inLine rfl
  · have below := attended.placed_lt_issued member
    rw [isNew] at below
    exact Nat.lt_irrefl _ below

/-- Whoever is next stays so or makes room for a later call. -/
theorem next_le {after : Delivery α} (attended : state.Attended)
    (placing : Traffic.Placing state.traffic after.traffic) :
    state.traffic.next ≤ after.traffic.next := by
  rcases next_mem after with inLine | isNew
  · rcases placing.waiting _ inLine with old | last
    · exact attended.next_le_waiting old
    · exact last ▸ attended.next_le_issued
  · rw [isNew]
    exact Nat.le_trans attended.next_le_issued placing.issued

/-- Who has just got a place: at most the one who was next. -/
theorem newly_placed {after : Delivery α} (attended : state.Attended) (kept : after.Attended)
    (placing : Traffic.Placing state.traffic after.traffic) {number : Ticket}
    (member : number ∈ after.traffic.placed.filter (· ∉ state.traffic.placed)) :
    number = state.traffic.next ∧ state.traffic.next < after.traffic.next := by
  obtain ⟨isPlaced, isNew⟩ := List.mem_filter.mp member
  have isNext : number = state.traffic.next :=
    (placing.placed number isPlaced).resolve_left (of_decide_eq_true isNew)
  refine ⟨isNext, Nat.lt_of_le_of_ne (attended.next_le placing) fun same => ?_⟩
  exact kept.next_not_mem_placed (same ▸ isNext ▸ isPlaced)

end Attended

theorem create_attended (config : QueueConfig) : (create config : Delivery α).Attended where
  numbered := Callers.fresh_numbered
  orderly := ⟨.nil, .slnil⟩
  lined := ⟨fun _ _ => nofun, fun _ => rfl⟩
  metered := ⟨_, Meters.create config.capacity⟩

variable [Queued α]

theorem step_placing {state : Delivery α}
    (busy : state.channel.waiting ≠ [] → state.channel.isFull = true) (move : Move α) :
    Traffic.Placing state.traffic (state.step move).traffic := by
  cases move with
  | traffic move => exact Traffic.step_placing busy move
  | dequeue stopping =>
    rw [step, dequeue_traffic]
    cases stopping with
    | true => exact .refl state.traffic
    | false =>
      exact .setChannel (fun _ => Channel.mem_granted_of_receive)
        (Channel.receive_waiting_subset _)
  | close => exact .setChannel (fun _ => Or.inl) (List.nil_subset _)
  | discard =>
    -- Closing has emptied the line, so that taking the items gives nobody a place.
    have left : state.channel.closeAndDiscard.2.granted = state.channel.granted ∧
        state.channel.closeAndDiscard.2.waiting = [] := by
      apply @Channel.closeAndDiscard_keeps _ fun channel =>
        channel.granted = state.channel.granted ∧ channel.waiting = []
      · rintro channel ⟨granted, nobody⟩
        have received := channel.receive_of_nobody nobody
        exact ⟨received.1.trans granted, received.2⟩
      · exact ⟨rfl, rfl⟩
    refine .setChannel (fun number member => Or.inl ?_) ?_
    · exact left.1 ▸ member
    · exact left.2 ▸ List.nil_subset _

/-- A property of the channel and its callers that no move of a caller and no operation of
the receiver breaks. -/
theorem step_keeps {Keeps : Channel (Call α) → Callers α → Prop} {state : Delivery α}
    (trafficKeeps : ∀ move, Keeps (state.traffic.step move).queue.channel
      (state.traffic.step move).callers)
    (receiveKeeps : ∀ channel callers, Keeps channel callers → Keeps channel.receive.2.2 callers)
    (closeKeeps : ∀ channel callers, Keeps channel callers → Keeps channel.close.2 callers)
    (holds : Keeps state.channel state.callers) (move : Move α) :
    Keeps (state.step move).channel (state.step move).callers := by
  cases move with
  | traffic move => exact trafficKeeps move
  | dequeue stopping =>
    show Keeps (state.dequeue stopping).traffic.queue.channel
      (state.dequeue stopping).traffic.callers
    rw [dequeue_traffic]
    cases stopping with
    | true => exact holds
    | false => exact receiveKeeps _ _ holds
  | close => exact closeKeeps _ _ holds
  | discard =>
    exact @Channel.closeAndDiscard_keeps _ (Keeps · state.callers)
      (fun channel => receiveKeeps channel state.callers) _ (closeKeeps _ _ holds)

theorem step_attended {state : Delivery α} (attended : state.Attended) (move : Move α) :
    (state.step move).Attended where
  numbered :=
    @step_keeps _ _ (fun _ callers => callers.Numbered) _
      (Traffic.step_numbered attended.numbered) (fun _ _ => id) (fun _ _ => id)
      attended.numbered move
  orderly :=
    step_keeps (Traffic.step_orderly attended.numbered attended.orderly)
      (fun _ _ => Traffic.Orderly.receive) (fun _ _ => Traffic.Orderly.close)
      attended.orderly move
  lined :=
    @step_keeps _ _ (fun channel callers => channel.Lined callers.line) _
      (Traffic.step_lined attended.lined) (fun _ _ lined => lined.receive rfl)
      (fun channel callers _ => Channel.Lined.close channel callers.line) attended.lined move
  metered := by
    obtain ⟨metered, meters⟩ := attended.metered
    rw [step_channel]
    exact ⟨_, meters.handleAll _⟩

theorem run_attended (config : QueueConfig) (moves : List (Move α)) :
    ((create config).run moves).Attended :=
  @run_keeps _ _ Attended (fun _ move attended => step_attended attended move) _
    (create_attended config) moves

/-- The calls that get a place in a run, one after the other, whether they wait for it or
not. -/
def admissions (state : Delivery α) : List (Move α) → List Ticket
  | [] => []
  | move :: rest =>
    (state.step move).traffic.placed.filter (· ∉ state.traffic.placed) ++
      (state.step move).admissions rest

theorem admissions_sorted {state : Delivery α} (attended : state.Attended)
    (moves : List (Move α)) :
    (∀ number ∈ state.admissions moves, state.traffic.next ≤ number) ∧
      (state.admissions moves).Pairwise (· < ·) := by
  induction moves generalizing state with
  | nil => exact ⟨nofun, .nil⟩
  | cons move rest inductionHypothesis =>
    have placing := step_placing attended.busy move
    have kept := step_attended attended move
    obtain ⟨later, sorted⟩ := inductionHypothesis kept
    constructor
    · intro number member
      rcases List.mem_append.mp member with isNew | follows
      · exact Nat.le_of_eq (attended.newly_placed kept placing isNew).1.symm
      · exact Nat.le_trans (attended.next_le placing) (later number follows)
    · refine List.pairwise_append.mpr ⟨?_, sorted, ?_⟩
      · have distinct := kept.placed_nodup.filter (· ∉ state.traffic.placed)
        refine List.Pairwise.imp_of_mem ?_ distinct
        intro first second isFirst isSecond differ
        have same := (attended.newly_placed kept placing isFirst).1.trans
          (attended.newly_placed kept placing isSecond).1.symm
        exact absurd same differ
      · intro first isFirst second follows
        obtain ⟨rfl, before⟩ := attended.newly_placed kept placing isFirst
        exact Nat.lt_of_lt_of_le before (later second follows)

theorem mem_admissions {state : Delivery α} {number : Ticket} (moves : List (Move α))
    (member : number ∈ (state.run moves).traffic.placed) :
    number ∈ state.traffic.placed ∨ number ∈ state.admissions moves := by
  induction moves generalizing state with
  | nil => exact Or.inl member
  | cons move rest inductionHypothesis =>
    by_cases old : number ∈ state.traffic.placed
    · exact Or.inl old
    · refine Or.inr (List.mem_append.mpr ?_)
      refine (inductionHypothesis member).imp_left fun isPlaced => ?_
      exact List.mem_filter.mpr ⟨isPlaced, decide_eq_true old⟩

/-- Places are given out in the order in which the calls were made, and every call that
succeeds has been given one. -/
theorem run_admissions (config : QueueConfig) (moves : List (Move α)) :
    ((create config).admissions moves).Pairwise (· < ·) ∧
      ∀ call ∈ ((create config).run moves).callers.accepted,
        call.number ∈ (create config : Delivery α).admissions moves := by
  refine ⟨(admissions_sorted (create_attended config) moves).2, fun call accepted => ?_⟩
  have isPlaced : call.number ∈ ((create config).run moves).traffic.placed :=
    List.mem_append_left _ (List.mem_map_of_mem accepted)
  exact (mem_admissions moves isPlaced).resolve_left nofun

end Delivery

end WorkHost
