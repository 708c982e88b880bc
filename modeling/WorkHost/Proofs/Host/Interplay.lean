import WorkHost.Proofs.Host.Advance
import WorkHost.Proofs.Host.Events
import WorkHost.Proofs.Queue.Traffic

/-!
Contract: a host, its callers and the clock, under any interleaving.

A run is a list of moves in any order: calls on the queue, a request to stop, the end
of the item in flight, time that passes, and steps of the worker. A move that is not
possible changes nothing. The record keeps what has happened and influences nothing.

Two things are assumed of the task of an item: it ends once, and it ends as aborted
only after the worker has told it to abort.
-/

namespace WorkHost

/-- What became of an item that was started. -/
structure Life (α : Type) where
  call : Call α
  /-- When and how its task ended. -/
  ending : Option (Nat × ExecutionResult)
  /-- When its task was told to abort. -/
  cutAt : Option Nat
  /-- The result that was reported. -/
  verdict : Option ExecutionResult
deriving Repr

/-- The items that were started, in the order in which they were. -/
structure Lives (α : Type) where
  past : List (Life α)
  /-- The item that was started last. -/
  current : Option (Life α)
deriving Repr

/-- What has happened so far. -/
structure Record (α : Type) where
  /-- The calls whose items the worker has dequeued. -/
  taken : List (Call α)
  lives : Lives α
  /-- The calls whose items were dropped unstarted. -/
  discarded : List (Call α)
  /-- The states of the worker, each with the time at which it was published. -/
  published : List (Nat × WorkerState)
  reports : List Report
  /-- Whether the worker has looked and found a request to stop. -/
  noticed : Bool
deriving Repr

structure Interplay (α : Type) where
  host : Host (Call α)
  callers : Callers α
  now : Nat
  record : Record α
deriving Repr

inductive Interplay.Move (α : Type) where
  | traffic (move : Traffic.Move α)
  | stop
  /-- The task of the item in flight ends. -/
  | conclude (result : ExecutionResult)
  | elapse (milliseconds : Nat)
  /-- The worker makes a step; `mishap` is the panic of the destructor of an item that
  the step discards, if there is one. -/
  | work (mishap : Option String)
deriving Repr

/-- The item that was dequeued and not yet started. -/
def Phase.held {β : Type} : Phase β → List β
  | .launching item => [item]
  | _ => []

/-- The item that the worker starts. -/
def Command.launched {β : Type} : Option (Command β) → List β
  | some (.execute item) => [item]
  | _ => []

/-- The item that the worker drops. -/
def Command.dropped {β : Type} : Option (Command β) → List β
  | some (.discard item) => [item]
  | _ => []

/-- Whether the worker's next step looks for a request to stop and finds one. -/
def Worker.notices {β : Type} (worker : Worker β) (view : Surroundings) : Bool :=
  view.stopping &&
    match worker.phase with
    | .dequeuing | .reported | .leaving => true
    | .executing _ => view.ended.isNone
    | _ => false

/-- What observers of the worker's state see of a step. -/
def WorkerState.publication (now : Nat) (source target : WorkerState) :
    List (Nat × WorkerState) :=
  if source = target then [] else [(now, target)]

theorem WorkerState.time_of_publication {now time : Nat} {source target state : WorkerState}
    (member : (time, state) ∈ publication now source target) : time = now := by
  unfold publication at member
  split at member
  · cases member
  · exact congrArg Prod.fst (List.mem_singleton.mp member)

/-- The state that a step adds to those before. -/
def WorkerState.added (source target : WorkerState) : List WorkerState :=
  if source = target then [] else [target]

@[simp]
theorem WorkerState.added_self (state : WorkerState) : added state state = [] := if_pos rfl

@[simp]
theorem WorkerState.mem_added (state source target : WorkerState) :
    state ∈ added source target ↔ source ≠ target ∧ state = target := by
  unfold added
  split <;> simp_all

theorem WorkerState.map_snd_publication (now : Nat) (source target : WorkerState) :
    (publication now source target).map Prod.snd = added source target := by
  unfold publication added
  split <;> rfl

namespace Life

variable {α : Type}

def begin (call : Call α) : Life α := ⟨call, none, none, none⟩

def mayEnd (life : Life α) (result : ExecutionResult) : Bool :=
  life.ending.isNone && (result ≠ .aborted || life.cutAt.isSome)

end Life

namespace Lives

variable {α : Type}

def toList (lives : Lives α) : List (Life α) := lives.past ++ lives.current.toList

def update (lives : Lives α) (change : Life α → Life α) : Lives α :=
  { lives with current := lives.current.map change }

theorem calls_update (lives : Lives α) {change : Life α → Life α}
    (keeps : ∀ life, (change life).call = life.call) :
    (lives.update change).toList.map Life.call = lives.toList.map Life.call := by
  unfold update toList
  cases lives.current <;> simp [keeps]

/-- A started item succeeds the one before; an abort concerns the item in flight. -/
def obey (lives : Lives α) (now : Nat) : Option (Command (Call α)) → Lives α
  | some (.execute call) => ⟨lives.toList, some (.begin call)⟩
  | some .abort => lives.update fun life => { life with cutAt := some now }
  | _ => lives

theorem calls_obey (lives : Lives α) (now : Nat) (command : Option (Command (Call α))) :
    (lives.obey now command).toList.map Life.call =
      lives.toList.map Life.call ++ Command.launched command := by
  rcases command with _ | call | _ | call
  · exact (List.append_nil _).symm
  · simp [obey, toList, Life.begin, Command.launched]
  · show (lives.update _).toList.map Life.call = _ ++ []
    rw [List.append_nil]
    exact lives.calls_update fun _ => rfl
  · exact (List.append_nil _).symm

/-- The item in flight gets its result when that is reported. -/
def judge (lives : Lives α) : Phase (Call α) → Lives α
  | .reporting _ result => lives.update fun life => { life with verdict := some result }
  | _ => lives

theorem calls_judge (lives : Lives α) (phase : Phase (Call α)) :
    (lives.judge phase).toList.map Life.call = lives.toList.map Life.call := by
  unfold judge
  split
  · exact lives.calls_update fun _ => rfl
  · rfl

end Lives

namespace Record

variable {α : Type}

def blank : Record α := ⟨[], ⟨[], none⟩, [], [(0, .running)], [], false⟩

def started (record : Record α) : List (Call α) := record.lives.toList.map Life.call

def events (record : Record α) : List EventKind := Report.events record.reports

/-- The states of the worker in the order in which they were published. -/
def states (record : Record α) : List WorkerState := record.published.map Prod.snd

end Record

namespace Interplay

variable {α : Type}

def create (config : QueueConfig) : Interplay α := ⟨.create config, .fresh, 0, .blank⟩

def traffic (state : Interplay α) : Traffic α := ⟨state.host.queue, state.callers⟩

def channel (state : Interplay α) : Channel (Call α) := state.host.queue.channel

def view (state : Interplay α) : Surroundings := state.host.surroundings state.now

@[simp]
theorem view_stopping (state : Interplay α) : state.view.stopping = state.host.stopping := rfl

def setTraffic (state : Interplay α) (traffic : Traffic α) : Interplay α :=
  { state with
    host := { state.host with queue := traffic.queue }
    callers := traffic.callers }

def conclude (state : Interplay α) (result : ExecutionResult) : Interplay α :=
  if state.record.lives.current.any fun life => life.mayEnd result then
    { state with
      host := state.host.concludeFlight result
      record := { state.record with
        lives := state.record.lives.update fun life =>
          { life with ending := some (state.now, result) } } }
  else state

/-- Takes in a stride of the worker. -/
def follow (state : Interplay α) (stride : HostStride (Call α)) : Interplay α :=
  let before := state.host.worker
  let record := state.record
  { state with
    host := stride.host
    record :=
      { taken := record.taken ++ stride.host.worker.phase.held
        lives := (record.lives.judge before.phase).obey state.now stride.command
        discarded := record.discarded ++ Command.dropped stride.command
        published :=
          record.published ++ before.state.publication state.now stride.host.worker.state
        reports := record.reports ++ stride.reports
        noticed := record.noticed || before.notices state.view } }

/-- The destructor of a discarded item panics, and what is buffered is dropped too. -/
def collapse (state : Interplay α) (message : String) : Interplay α :=
  { state with
    host := state.host.abandon message
    record := { state.record with
      discarded := state.record.discarded ++ state.channel.buffer } }

/-- A stride of the worker as the host takes it in. -/
def hostStride (state : Interplay α) (stride : Stride (Call α)) : HostStride (Call α) where
  host :=
    { state.host with
      worker := stride.worker
      queue := { state.host.queue with channel := stride.channel }
      ended :=
        match stride.command with
        | some (.execute _) => none
        | _ => state.host.ended }
  reports := stride.reports
  command := stride.command
  woken := stride.woken

/-- A step of the worker that is made. -/
def advance (state : Interplay α) (stride : Stride (Call α)) : Interplay α :=
  state.follow (state.hostStride stride)

section

variable (state : Interplay α) (stride : Stride (Call α))

@[simp]
theorem advance_worker : (state.advance stride).host.worker = stride.worker := rfl

@[simp]
theorem advance_stopping : (state.advance stride).host.stopping = state.host.stopping := rfl

@[simp]
theorem advance_channel : (state.advance stride).channel = stride.channel := rfl

@[simp]
theorem advance_taken : (state.advance stride).record.taken =
    state.record.taken ++ stride.worker.phase.held := rfl

@[simp]
theorem advance_discarded : (state.advance stride).record.discarded =
    state.record.discarded ++ Command.dropped stride.command := rfl

@[simp]
theorem advance_started : (state.advance stride).record.started =
    state.record.started ++ Command.launched stride.command := by
  simp only [Record.started, advance, follow, Lives.calls_obey, Lives.calls_judge, hostStride]

@[simp]
theorem advance_states : (state.advance stride).record.states =
    state.record.states ++ state.host.worker.state.added stride.worker.state := by
  simp only [Record.states, advance, follow, List.map_append, WorkerState.map_snd_publication,
    hostStride]

@[simp]
theorem advance_events : (state.advance stride).record.events =
    state.record.events ++ Report.events stride.reports := by
  simp only [Record.events, advance, follow, Report.events_append, hostStride]

@[simp]
theorem advance_noticed : (state.advance stride).record.noticed =
    (state.record.noticed || state.host.worker.notices state.view) := rfl

end

variable [Queued α]

def work (state : Interplay α) (mishap : Option String) : Interplay α :=
  match state.host.step state.now with
  | none => state
  | some stride =>
    match stride.command, mishap with
    | some (.discard _), some message => (state.follow stride).collapse message
    | _, _ => state.follow stride

def step (state : Interplay α) : Move α → Interplay α
  | .traffic move => state.setTraffic (state.traffic.step move)
  | .stop => { state with host := state.host.requestStop }
  | .conclude result => state.conclude result
  | .elapse milliseconds => { state with now := state.now + milliseconds }
  | .work mishap => state.work mishap

def run (state : Interplay α) (moves : List (Move α)) : Interplay α := moves.foldl step state

def Move.isWork : Move α → Bool
  | .work _ => true
  | _ => false

/-- Only the worker's steps change the worker. -/
theorem step_worker (state : Interplay α) {move : Move α} (idle : move.isWork = false) :
    (state.step move).host.worker = state.host.worker := by
  cases move with
  | conclude result =>
    simp only [step, conclude]
    split <;> rfl
  | work mishap => cases idle
  | _ => rfl

/-- What every move keeps, every run keeps. -/
theorem run_keeps {Keeps : Interplay α → Prop}
    (stepKeeps : ∀ state move, Keeps state → Keeps (state.step move))
    {state : Interplay α} (holds : Keeps state) (moves : List (Move α)) :
    Keeps (state.run moves) := by
  induction moves generalizing state with
  | nil => exact holds
  | cons move rest inductionHypothesis => exact inductionHypothesis (stepKeeps state move holds)

theorem run_append (state : Interplay α) (before after : List (Move α)) :
    state.run (before ++ after) = (state.run before).run after := List.foldl_append

theorem host_step (state : Interplay α) :
    state.host.step state.now =
      (state.host.worker.step state.view state.channel).map state.hostStride := by
  unfold Host.step
  congr 1
  funext stride
  obtain ⟨worker, channel, reports, command, woken⟩ := stride
  rcases command with _ | _ | _ | _ <;> rfl

/-- What comes of a step that the worker makes. -/
theorem work_of_step (state : Interplay α) {stride : Stride (Call α)}
    (stepped : state.host.worker.step state.view state.channel = some stride)
    (mishap : Option String) :
    state.work mishap = state.advance stride ∨
      ∃ call message, stride.command = some (.discard call) ∧
        state.work mishap = (state.advance stride).collapse message := by
  unfold work
  rw [host_step, stepped, Option.map_some]
  dsimp only
  split
  · rename_i call message discards
    exact Or.inr ⟨call, message, discards, rfl⟩
  · exact Or.inl rfl

theorem work_cases (state : Interplay α) (mishap : Option String) :
    (state.host.worker.step state.view state.channel = none ∧ state.work mishap = state) ∨
      ∃ stride, Advance state.view state.host.worker state.channel stride ∧
        state.work none = state.advance stride ∧
        (state.work mishap = state.advance stride ∨
          ∃ call message, stride.command = some (.discard call) ∧
            state.work mishap = (state.advance stride).collapse message) := by
  cases stepped : state.host.worker.step state.view state.channel with
  | none =>
    refine Or.inl ⟨rfl, ?_⟩
    rw [work, host_step, stepped]
    rfl
  | some stride =>
    refine Or.inr ⟨stride, Worker.step_advance stepped, ?_, state.work_of_step stepped mishap⟩
    rw [work, host_step, stepped, Option.map_some]
    dsimp only
    split
    · rename_i same
      cases same
    · rfl

end Interplay

end WorkHost
