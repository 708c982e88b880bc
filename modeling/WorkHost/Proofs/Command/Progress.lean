import WorkHost.Proofs.Command.Storyline
import WorkHost.Proofs.Queue.Paths

/-!
Contract: how far a demonstration has come, whoever goes on next.

The producer, the worker and the task of the item in flight may go on in any order
(`DemoRun.Move`). In every state that they reach the worker is at some `Stage` of the story
that is told in the end, the items between it and the producer are in the buffer (`Stock`),
and the producer is ready, waits, or is done (`Offers`). Every move uses up some of the moves
that are left (`Kept.perform`), and when nobody can go on the worker has ended
(`Kept.goes_on`).
-/

namespace WorkHost

/-! ## Where everybody is -/

namespace TaskQueue

variable {β : Type} [Queued β] {queue : TaskQueue β}

theorem enqueue_waits (waits : queue.policy = .wait) (isOpen : queue.channel.closed = false)
    (full : queue.channel.isFull = true) (ticket : Ticket) (item : β) :
    queue.enqueue ticket item =
      (.waiting, { queue with
        channel := { queue.channel with waiting := queue.channel.waiting ++ [ticket] } }) := by
  simp only [enqueue, waits, Channel.send, isOpen, full, if_true, Bool.false_eq_true, if_false,
    conclude]

/-- Whoever has been given a place uses it. -/
theorem resume_granted {ticket : Ticket} (isOpen : queue.channel.closed = false)
    (granted : queue.channel.granted.contains ticket = true) (item : β) :
    queue.resume ticket item =
      (.done (.ok (Queued.id item)), { queue with
        channel :=
          { queue.channel with granted := queue.channel.granted.erase ticket }.push item }) := by
  simp only [resume, Channel.resume, isOpen, granted, if_true, Bool.false_eq_true, if_false,
    conclude]

end TaskQueue

namespace DemoRun

/-- How far the worker has come: how many items have come to their end, how many it has
received, what was told, and how many moves are left to it and to the item in flight, those for
later items apart. -/
inductive Stage (options : DemoOptions) (identities : DemoIdentities) :
    Phase DemoItem → Option DemoItem → Option ExecutionResult → Nat → Nat → List EventKind → Nat →
      Prop where
  | starting {ended : Option ExecutionResult} :
    Stage options identities .starting none ended 0 0 [] 7
  | dequeuing {ended : Option ExecutionResult} (count : Nat) :
    Stage options identities .dequeuing none ended count count
      (options.opening identities count) 6
  | launching {ended : Option ExecutionResult} (count : Nat) :
    Stage options identities (.launching (identities.demoItem (count + 1))) none ended count
      (count + 1) (options.opening identities count) 11
  | executing (count startedAt : Nat) :
    Stage options identities
      (.executing (.ofItem (identities.demoItem (count + 1)) startedAt))
      (some (identities.demoItem (count + 1))) none count (count + 1)
      (options.opening identities count ++ [DemoOptions.started identities (count + 1)]) 10
  | landed (count startedAt : Nat) :
    Stage options identities
      (.executing (.ofItem (identities.demoItem (count + 1)) startedAt)) none
      (some (options.result identities (identities.demoItem (count + 1)))) (count + 1) (count + 1)
      (options.opening identities count ++ [DemoOptions.started identities (count + 1)]) 9
  | reporting {ended : Option ExecutionResult} (count startedAt : Nat) :
    Stage options identities
      (.reporting (.ofItem (identities.demoItem (count + 1)) startedAt)
        (options.result identities (identities.demoItem (count + 1)))) none ended (count + 1)
      (count + 1)
      (options.opening identities count ++ [DemoOptions.started identities (count + 1)]) 8
  | reported {ended : Option ExecutionResult} (count : Nat) :
    Stage options identities .reported none ended count count
      (options.opening identities count) 7
  | leaving {ended : Option ExecutionResult} :
    Stage options identities .leaving none ended options.items options.items
      (options.opening identities options.items) 5
  | sealing {ended : Option ExecutionResult} :
    Stage options identities .sealing none ended options.items options.items
      (options.opening identities options.items) 4
  | discarding {ended : Option ExecutionResult} :
    Stage options identities (.discarding 0) none ended options.items options.items
      (options.opening identities options.items) 3
  | summing {ended : Option ExecutionResult} :
    Stage options identities (.summing 0) none ended options.items options.items
      (options.opening identities options.items) 2
  | finishing {ended : Option ExecutionResult} :
    Stage options identities .finishing none ended options.items options.items
      (options.opening identities options.items) 1
  | ended {ended : Option ExecutionResult} :
    Stage options identities .ended none ended options.items options.items
      (options.story identities) 0

/-- The buffer holds the items between the worker and the producer. -/
structure Stock (config : QueueConfig) (options : DemoOptions) (identities : DemoIdentities)
    (channel : Channel DemoItem) (received next : Nat) : Prop where
  capacity : channel.capacity = config.places
  ahead : received < next
  within : next ≤ options.items + 1
  buffer : channel.buffer =
    (List.range' (received + 1) (next - 1 - received)).map identities.demoItem

/-- What the producer is at, and how many moves are left to it. -/
inductive Offers (config : QueueConfig) (options : DemoOptions) (channel : Channel DemoItem)
    (next : Nat) : Bool → Bool → Nat → Prop where
  | ready : channel.closed = false → channel.handles = 1 → channel.waiting = [] →
    channel.granted = [] → Offers config options channel next false true
      (2 * (options.items + 1 - next) + 1)
  | queued : channel.closed = false → channel.handles = 1 → channel.waiting = [DemoRun.ticket] →
    channel.granted = [] → config.overflow = .wait → next ≤ options.items →
    config.places ≤ channel.buffer.length →
      Offers config options channel next true true (2 * (options.items + 1 - next))
  | granted : channel.closed = false → channel.handles = 1 → channel.waiting = [] →
    channel.granted = [DemoRun.ticket] → config.overflow = .wait → next ≤ options.items →
      Offers config options channel next true true (2 * (options.items + 1 - next))
  | done : next = options.items + 1 → channel.handles = 0 →
    Offers config options channel next false false 0

/-- What holds of a demonstration after the end of some items, with a number of moves left. -/
structure Kept (config : QueueConfig) (options : DemoOptions) (identities : DemoIdentities)
    (run : DemoRun) (finished left : Nat) : Prop where
  calm : run.host.stopping = false
  policy : run.host.queue.policy = config.overflow
  accepted : run.refusal = none
  bus : run.bus.Sound (EventBus.create options.busCapacity).slots
  stands : ∃ received rest budget,
    Stage options identities run.host.worker.phase run.flight run.host.ended finished received
      run.bus.told rest ∧
    Stock config options identities run.host.queue.channel received run.next ∧
    Offers config options run.host.queue.channel run.next run.waiting run.hasHandle budget ∧
    -- The worker leaves only when the last handle is gone.
    (rest ≤ 5 → run.hasHandle = false) ∧
    left = budget + 6 * (options.items - received) + rest

/-- What may go on. -/
inductive Move where
  | produce
  | work
  | land
deriving DecidableEq, Repr

def perform? (run : DemoRun) (options : DemoOptions) (identities : DemoIdentities)
    (clock : Calendar.Instant) : Move → Option DemoRun
  | .produce => run.produce? options identities
  | .work => run.work? clock
  | .land => run.land? options identities

variable {config : QueueConfig} {options : DemoOptions} {identities : DemoIdentities}
  {run next : DemoRun} {finished left : Nat}

theorem start_kept (config : QueueConfig) (options : DemoOptions) (identities : DemoIdentities) :
    Kept config options identities (start config options) 0 (8 * options.items + 8) where
  calm := rfl
  policy := rfl
  accepted := rfl
  bus := ⟨rfl, nofun⟩
  stands := by
    refine ⟨0, 7, 2 * (options.items + 1 - 1) + 1, .starting, ⟨rfl, Nat.one_pos, ?_, rfl⟩,
      .ready rfl rfl rfl rfl, ?_, ?_⟩
    · exact Nat.le_add_left _ _
    · exact fun few => absurd few (by decide)
    · omega

/-- The clock may go on. -/
theorem Kept.pass (kept : Kept config options identities run finished left) (milliseconds : Nat) :
    Kept config options identities { run with now := run.now + milliseconds } finished left := by
  obtain ⟨calm, policy, accepted, bus, stands⟩ := kept
  exact ⟨calm, policy, accepted, bus, stands⟩

/-! ## The item in flight -/

/-- The next item, and no other, comes to its end. -/
theorem Kept.land (kept : Kept config options identities run finished left)
    (stepped : run.land? options identities = some next) :
    run.flight = some (identities.demoItem (finished + 1)) ∧
      ∃ less < left, Kept config options identities next (finished + 1) less := by
  obtain ⟨calm, policy, accepted, bus, received, rest, budget, stage, stock, offers, -, rfl⟩ := kept
  obtain ⟨item, flight, rfl⟩ := Option.map_eq_some_iff.mp stepped
  rw [flight] at stage
  generalize isPhase : run.host.worker.phase = phase at stage
  generalize isEnded : run.host.ended = ended at stage
  generalize isTold : run.bus.told = told at stage
  cases stage with
  | executing count startedAt =>
    refine ⟨flight, budget + 6 * (options.items - (finished + 1)) + 9, by omega, calm, policy,
      accepted, bus, finished + 1, 9, budget, ?_, stock, offers, fun few => absurd few (by decide),
      rfl⟩
    rw [isTold]
    simp only [Host.concludeFlight, isPhase]
    exact .landed finished startedAt

/-! ## The producer -/

/-- The stock is in the buffer, whoever waits and whoever holds a handle. -/
theorem Stock.alike {channel other : Channel DemoItem} {received next : Nat}
    (stock : Stock config options identities channel received next)
    (capacity : other.capacity = channel.capacity) (buffer : other.buffer = channel.buffer) :
    Stock config options identities other received next :=
  ⟨capacity.trans stock.capacity, stock.ahead, stock.within, buffer.trans stock.buffer⟩

/-- An item takes its place at the end of the buffer. -/
theorem Stock.push {channel : Channel DemoItem} {received next : Nat}
    (stock : Stock config options identities channel received next) (more : next ≤ options.items) :
    Stock config options identities (channel.push (identities.demoItem next)) received
      (next + 1) where
  capacity := stock.capacity
  ahead := Nat.lt_succ_of_lt stock.ahead
  within := Nat.succ_le_succ more
  buffer := by
    have ahead := stock.ahead
    have grows : next + 1 - 1 - received = next - 1 - received + 1 := by omega
    have last : received + 1 + 1 * (next - 1 - received) = next := by omega
    rw [grows, List.range'_concat, last, List.map_append, ← stock.buffer]
    rfl

/-- The producer touches nothing but the queue. -/
theorem Kept.requeue (kept : Kept config options identities run finished left)
    {received rest budget : Nat}
    (stage : Stage options identities run.host.worker.phase run.flight run.host.ended finished
      received run.bus.told rest)
    {channel : Channel DemoItem} {number : Nat} {waiting hasHandle : Bool}
    (stock : Stock config options identities channel received number)
    (offers : Offers config options channel number waiting hasHandle budget)
    (gone : rest ≤ 5 → hasHandle = false) :
    Kept config options identities
      { run with
        host := { run.host with queue := { run.host.queue with channel } }
        next := number
        waiting
        hasHandle }
      finished (budget + 6 * (options.items - received) + rest) :=
  ⟨kept.calm, kept.policy, kept.accepted, kept.bus, received, rest, budget, stage, stock, offers,
    gone, rfl⟩

/-- Whoever rejects what does not fit has room for all items. -/
theorem Stock.hasRoom {channel : Channel DemoItem} {received next : Nat}
    (stock : Stock config options identities channel received next)
    (room : options.items ≤ config.capacity) (more : next ≤ options.items)
    (nobody : channel.granted = []) : channel.isFull = false := by
  have ahead := stock.ahead
  have places : config.capacity ≤ config.places := Nat.le_max_left _ _
  rw [Channel.isFull, Channel.len, stock.capacity, stock.buffer, nobody, List.length_map,
    List.length_range', List.length_nil, decide_eq_false_iff_not]
  omega

/-- A producer that is ready offers its next item, which takes its place or waits for one. -/
theorem Kept.offer (room : config.overflow = .wait ∨ options.items ≤ config.capacity)
    (kept : Kept config options identities run finished left) {received rest : Nat}
    (stage : Stage options identities run.host.worker.phase run.flight run.host.ended finished
      received run.bus.told rest)
    (stock : Stock config options identities run.host.queue.channel received run.next)
    (gone : rest ≤ 5 → run.hasHandle = false) (isHeld : run.hasHandle = true)
    (isOpen : run.host.queue.channel.closed = false)
    (handles : run.host.queue.channel.handles = 1)
    (nobody : run.host.queue.channel.waiting = []) (noGrant : run.host.queue.channel.granted = [])
    (more : run.next ≤ options.items) :
    let (progress, queue) := run.host.queue.enqueue ticket (identities.demoItem run.next)
    ∃ less < 2 * (options.items + 1 - run.next) + 1 + 6 * (options.items - received) + rest,
      Kept config options identities (run.conclude progress queue) finished less := by
  cases full : run.host.queue.channel.isFull with
  | false =>
    rw [TaskQueue.enqueue_of_spare full, TaskQueue.tryEnqueue_of_spare isOpen full]
    have offers : Offers config options
        (run.host.queue.channel.push (identities.demoItem run.next)) (run.next + 1) false
        run.hasHandle (2 * (options.items + 1 - (run.next + 1)) + 1) :=
      isHeld ▸ .ready isOpen handles nobody noGrant
    exact ⟨_, by omega, kept.requeue stage (stock.push more) offers gone⟩
  | true =>
    have waits : config.overflow = .wait := by
      refine room.resolve_right fun fits => ?_
      rw [stock.hasRoom fits more noGrant] at full
      cases full
    have crowded : config.places ≤ run.host.queue.channel.buffer.length := by
      rw [Channel.isFull, decide_eq_true_eq, Channel.len, noGrant, stock.capacity] at full
      exact full
    rw [TaskQueue.enqueue_waits (kept.policy.trans waits) isOpen full, nobody]
    have offers : Offers config options
        { run.host.queue.channel with waiting := [ticket] } run.next true run.hasHandle
        (2 * (options.items + 1 - run.next)) := by
      rw [isHeld]
      exact .queued isOpen handles rfl noGrant waits more crowded
    have stock : Stock config options identities
        { run.host.queue.channel with waiting := [ticket] } received run.next :=
      stock.alike rfl rfl
    exact ⟨_, by omega, kept.requeue stage stock offers gone⟩

theorem Kept.produce (room : config.overflow = .wait ∨ options.items ≤ config.capacity)
    (kept : Kept config options identities run finished left)
    (stepped : run.produce? options identities = some next) :
    ∃ less < left, Kept config options identities next finished less := by
  obtain ⟨received, rest, budget, stage, stock, offers, gone, rfl⟩ := kept.stands
  unfold produce? at stepped
  generalize isWaiting : run.waiting = waiting at offers stepped
  generalize isHeld : run.hasHandle = hasHandle at offers stepped
  cases offers with
  | ready isOpen handles nobody noGrant =>
    by_cases more : run.next ≤ options.items
    · rw [if_pos more, if_neg Bool.false_ne_true] at stepped
      obtain rfl := Option.some.inj stepped
      exact kept.offer room stage stock (isHeld ▸ gone) isHeld isOpen handles nobody noGrant more
    · rw [if_neg more, if_pos rfl] at stepped
      obtain rfl := Option.some.inj stepped
      have all : run.next = options.items + 1 := by
        have within := stock.within
        omega
      have offers : Offers config options run.host.queue.channel.dropHandle run.next false false
          0 := .done all (congrArg (· - 1) handles)
      have stock : Stock config options identities run.host.queue.channel.dropHandle received
          run.next :=
        stock.alike rfl rfl
      exact ⟨_, by omega, kept.requeue stage stock offers fun _ => rfl⟩
  | queued isOpen handles waits noGrant policy more full =>
    rw [if_pos more, if_pos rfl, noGrant] at stepped
    cases stepped
  | granted isOpen handles nobody grants policy more =>
    have isGranted : run.host.queue.channel.granted.contains ticket = true := by
      rw [grants]
      rfl
    rw [if_pos more, if_pos rfl, if_pos isGranted, TaskQueue.resume_granted isOpen isGranted,
      grants] at stepped
    obtain rfl := Option.some.inj stepped
    have offers : Offers config options
        ({ run.host.queue.channel with granted := [ticket].erase ticket }.push
          (identities.demoItem run.next)) (run.next + 1) false run.hasHandle
        (2 * (options.items + 1 - (run.next + 1)) + 1) :=
      isHeld ▸ .ready isOpen handles nobody rfl
    have stock : Stock config options identities
        { run.host.queue.channel with granted := [ticket].erase ticket } received run.next :=
      stock.alike rfl rfl
    exact ⟨_, by omega, kept.requeue stage (stock.push more) offers (isHeld ▸ gone)⟩
  | done all handles =>
    have noMore : ¬ run.next ≤ options.items := by omega
    rw [if_neg noMore] at stepped
    cases stepped

/-! ## The worker -/

/-- What a step of the worker changes. -/
def follow (run : DemoRun) (clock : Calendar.Instant) (stride : Stride DemoItem) : DemoRun :=
  { run with
    host := { run.host with
      worker := stride.worker
      queue := { run.host.queue with channel := stride.channel }
      ended :=
        match stride.command with
        | some (.execute _) => none
        | _ => run.host.ended }
    bus := stride.reports.foldl (emit clock run.now) run.bus
    flight :=
      match stride.command with
      | some (.execute item) => some item
      | _ => run.flight }

theorem work?_eq (run : DemoRun) (clock : Calendar.Instant) :
    run.work? clock =
      (run.host.worker.step (run.host.surroundings run.now) run.host.queue.channel).map
        (run.follow clock) := by
  rw [work?, Host.step, Option.map_map]
  congr 1
  funext ⟨worker, channel, reports, command, woken⟩
  rcases command with _ | _ | _ | _ <;> rfl

/-- The item in flight after a command. -/
def flightAfter : Option (Command DemoItem) → Option DemoItem → Option DemoItem
  | some (.execute item), _ => some item
  | _, flight => flight

/-- The result of the last item after a command. -/
def endedAfter : Option (Command DemoItem) → Option ExecutionResult → Option ExecutionResult
  | some (.execute _), _ => none
  | _, ended => ended

theorem flight_follow (run : DemoRun) (clock : Calendar.Instant) (stride : Stride DemoItem) :
    (run.follow clock stride).flight = flightAfter stride.command run.flight := by
  rw [follow]
  rcases stride.command with _ | _ | _ | _ <;> rfl

theorem ended_follow (run : DemoRun) (clock : Calendar.Instant) (stride : Stride DemoItem) :
    (run.follow clock stride).host.ended = endedAfter stride.command run.host.ended := by
  rw [follow]
  rcases stride.command with _ | _ | _ | _ <;> rfl

/-- Where a step takes the worker. -/
def Stage.Reached (options : DemoOptions) (identities : DemoIdentities) (stride : Stride DemoItem)
    (flight : Option DemoItem) (ended : Option ExecutionResult) (finished received : Nat)
    (told : List EventKind) (rest : Nat) : Prop :=
  Stage options identities stride.worker.phase (flightAfter stride.command flight)
    (endedAfter stride.command ended) finished received
    (told ++ (Report.events stride.reports).map EventKind.timeless) rest

/-- A step with which nothing is told. -/
theorem Stage.reached_of_silent {stride : Stride DemoItem} {flight : Option DemoItem}
    {ended : Option ExecutionResult} {received rest : Nat} {told : List EventKind}
    (stage : Stage options identities stride.worker.phase flight ended finished received told rest)
    (command : stride.command = none) (silent : Report.events stride.reports = []) :
    Stage.Reached options identities stride flight ended finished received told rest := by
  rw [Stage.Reached, command, silent, List.map_nil, List.append_nil]
  exact stage

/-- What a step of the worker does to the queue, and where it takes the worker. -/
inductive Stage.Turn (options : DemoOptions) (identities : DemoIdentities)
    (channel : Channel DemoItem) (stride : Stride DemoItem) (flight : Option DemoItem)
    (ended : Option ExecutionResult) (finished received : Nat) (told : List EventKind) :
    Nat → Prop where
  | quiet {rest fewer : Nat} : stride.channel = channel →
    Stage.Reached options identities stride flight ended finished received told fewer →
      fewer < rest → (fewer ≤ 5 → rest ≤ 5) →
        Turn options identities channel stride flight ended finished received told rest
  | take {item : DemoItem} {woken : Option Ticket} :
    channel.receive = (.item item, woken, stride.channel) →
      (item = identities.demoItem (received + 1) →
        Stage.Reached options identities stride flight ended finished (received + 1) told 11) →
          Turn options identities channel stride flight ended finished received told 6
  | desert {woken : Option Ticket} {next : Channel DemoItem} :
    channel.receive = (.ended, woken, next) → stride.channel = channel →
      (received = options.items →
        Stage.Reached options identities stride flight ended finished received told 5) →
          Turn options identities channel stride flight ended finished received told 6
  | shut : stride.channel = channel.close.2 →
    Stage.Reached options identities stride flight ended finished received told 3 →
      Turn options identities channel stride flight ended finished received told 4
  | discard {item : DemoItem} {woken : Option Ticket} :
    channel.receive = (.item item, woken, stride.channel) → received = options.items →
      Turn options identities channel stride flight ended finished received told 3

/-- A worker that nobody asks to stop goes on to the next stage. -/
theorem Stage.turn {view : Surroundings} {worker : Worker DemoItem} {channel : Channel DemoItem}
    {stride : Stride DemoItem} {flight : Option DemoItem} {received rest : Nat}
    {told : List EventKind} (advance : Advance view worker channel stride)
    (calm : view.stopping = false)
    (stage : Stage options identities worker.phase flight view.ended finished received told rest) :
    Stage.Turn options identities channel stride flight view.ended finished received told rest := by
  generalize isEnded : view.ended = ended at stage ⊢
  cases advance with
  | begin phase =>
    rw [phase] at stage
    cases stage with
    | starting => exact .quiet rfl (.dequeuing 0) (by decide) (by decide)
  | take phase _ took =>
    rw [phase] at stage
    cases stage with
    | dequeuing =>
      refine .take took ?_
      rintro rfl
      exact (Stage.launching finished).reached_of_silent rfl rfl
  | desert phase _ nothing =>
    rw [phase] at stage
    cases stage with
    | dequeuing =>
      refine .desert nothing rfl ?_
      rintro rfl
      exact Stage.leaving.reached_of_silent rfl rfl
  | launch phase =>
    rw [phase] at stage
    cases stage with
    | launching =>
      refine .quiet rfl ?_ (by decide : 10 < 11) (by decide)
      show Stage _ _ _ _ _ _ _
        (_ ++ (Report.events (Flight.ofItem _ view.now).startReports).map _) _
      rw [Flight.started_ofItem]
      exact .executing finished view.now
  | land phase isOver =>
    rw [phase] at stage
    cases stage with
    | executing => cases isEnded.symm.trans isOver
    | landed count startedAt =>
      obtain rfl := Option.some.inj (isEnded.symm.trans isOver)
      exact .quiet rfl ((Stage.reporting count startedAt).reached_of_silent rfl rfl) (by decide)
        (by decide)
  | report phase =>
    rw [phase] at stage
    cases stage with
    | reporting count startedAt =>
      refine .quiet rfl ?_ (by decide : 7 < 8) (by decide)
      show Stage _ _ _ _ _ _ _ (_ ++ (Report.events (Flight.reports _ _ _ _)).map _) _
      rw [Flight.ended_ofItem, ← options.opening_succ]
      exact .reported (count + 1)
  | again phase =>
    rw [phase] at stage
    cases stage with
    | reported =>
      exact .quiet rfl ((Stage.dequeuing finished).reached_of_silent rfl rfl) (by decide)
        (by decide)
  | leave phase =>
    rw [phase] at stage
    cases stage with
    | leaving =>
      exact .quiet rfl (Stage.sealing.reached_of_silent rfl rfl) (by decide) fun _ => by decide
  | shut phase =>
    rw [phase] at stage
    cases stage with
    | sealing => exact .shut rfl (Stage.discarding.reached_of_silent rfl rfl)
  | discard phase took =>
    rw [phase] at stage
    cases stage with
    | discarding => exact .discard took rfl
  | exhaust phase =>
    rw [phase] at stage
    cases stage with
    | discarding =>
      exact .quiet rfl (Stage.summing.reached_of_silent rfl rfl) (by decide) (by decide)
  | sum phase =>
    rw [phase] at stage
    cases stage with
    | summing =>
      exact .quiet rfl (Stage.finishing.reached_of_silent rfl rfl) (by decide) (by decide)
  | stop phase =>
    rw [phase] at stage
    cases stage with
    | finishing => exact .quiet rfl .ended (by decide) (by decide)
  | heed _ stopping | interrupt _ _ stopping | quit _ stopping | obey _ stopping =>
    cases calm.symm.trans stopping
  -- Only a worker that was asked to stop gets there.
  | close phase | announce phase | resume phase | settle phase | cut phase | yield phase
  | detach phase =>
    rw [phase] at stage
    cases stage

/-- The worker is where its step has taken it, and the bus has been told what was reported. -/
theorem Kept.follow (kept : Kept config options identities run finished left)
    (clock : Calendar.Instant) {stride : Stride DemoItem} {received rest budget : Nat}
    (stage : Stage.Reached options identities stride run.flight run.host.ended finished received
      run.bus.told rest)
    (stock : Stock config options identities stride.channel received run.next)
    (offers : Offers config options stride.channel run.next run.waiting run.hasHandle budget)
    (gone : rest ≤ 5 → run.hasHandle = false) :
    Kept config options identities (run.follow clock stride) finished
      (budget + 6 * (options.items - received) + rest) := by
  obtain ⟨sound, isTold⟩ := kept.bus.report clock run.now stride.reports
  refine ⟨kept.calm, kept.policy, kept.accepted, sound, received, rest, budget, ?_, stock, offers,
    gone, rfl⟩
  rw [Stage.Reached, ← isTold, ← flight_follow run clock, ← ended_follow run clock] at stage
  exact stage

/-- The place of the item that is taken is given to whoever waits for one. -/
theorem eq_grant_of_receive {channel next : Channel DemoItem} {item : DemoItem}
    {woken : Option Ticket} (took : channel.receive = (.item item, woken, next)) :
    ∃ rest, channel.buffer = item :: rest ∧ next = { channel with buffer := rest }.grant.2 := by
  unfold Channel.receive at took
  split at took
  · rename_i first rest buffer
    simp only [Prod.mk.injEq, Receiving.item.injEq] at took
    obtain ⟨rfl, -, rfl⟩ := took
    exact ⟨rest, buffer, rfl⟩
  · split at took <;> simp at took

/-- The worker takes the oldest item. -/
theorem Stock.take {channel next : Channel DemoItem} {received number : Nat} {item : DemoItem}
    {woken : Option Ticket} (stock : Stock config options identities channel received number)
    (took : channel.receive = (.item item, woken, next)) :
    received + 1 ≤ options.items ∧ item = identities.demoItem (received + 1) ∧
      Stock config options identities next (received + 1) number := by
  obtain ⟨rest, buffer, rfl⟩ := eq_grant_of_receive took
  have within := stock.within
  have listed := stock.buffer
  rw [buffer] at listed
  obtain ⟨count, isCount⟩ : ∃ count, number - 1 - received = count + 1 := by
    refine Nat.exists_eq_succ_of_ne_zero fun none => ?_
    rw [none] at listed
    cases listed
  rw [isCount, List.range'_succ, List.map_cons] at listed
  obtain ⟨isItem, isRest⟩ := List.cons.inj listed
  refine ⟨by omega, isItem, ?_, by omega, within, ?_⟩
  · rw [Channel.grant_capacity]
    exact stock.capacity
  · have less : number - 1 - (received + 1) = count := by omega
    rw [Channel.grant_buffer, less]
    exact isRest

theorem grant_of_nobody (channel : Channel DemoItem) (nobody : channel.waiting = []) :
    channel.grant.2 = channel := by
  rw [Channel.grant, nobody]

/-- Whoever waits for a place is given that of the item. -/
theorem Offers.take {channel next : Channel DemoItem} {number budget : Nat} {item : DemoItem}
    {woken : Option Ticket} {waiting hasHandle : Bool}
    (offers : Offers config options channel number waiting hasHandle budget)
    (took : channel.receive = (.item item, woken, next)) :
    Offers config options next number waiting hasHandle budget := by
  obtain ⟨rest, -, rfl⟩ := eq_grant_of_receive took
  cases offers with
  | ready isOpen handles nobody noGrant =>
    rw [grant_of_nobody { channel with buffer := rest } nobody]
    exact .ready isOpen handles nobody noGrant
  | queued isOpen handles waits noGrant policy more full =>
    have given : ({ channel with buffer := rest } : Channel DemoItem).grant.2 =
        { channel with buffer := rest, waiting := [], granted := [ticket] } := by
      rw [Channel.grant, waits, noGrant]
      rfl
    rw [given]
    exact .granted isOpen handles rfl rfl policy more
  | granted isOpen handles nobody grants policy more =>
    rw [grant_of_nobody { channel with buffer := rest } nobody]
    exact .granted isOpen handles nobody grants policy more
  | done all handles => exact .done all (by rw [Channel.grant_handles, handles])

/-- Nothing more comes only if the last handle is gone and all items were received. -/
theorem Offers.deserted {channel next : Channel DemoItem} {received number budget : Nat}
    {woken : Option Ticket} {waiting hasHandle : Bool}
    (offers : Offers config options channel number waiting hasHandle budget)
    (stock : Stock config options identities channel received number)
    (nothing : channel.receive = (.ended, woken, next)) :
    received = options.items ∧ hasHandle = false := by
  obtain ⟨empty, -⟩ := Channel.receive_none nothing nofun
  cases offers with
  | ready isOpen handles | queued isOpen handles | granted isOpen handles =>
    rw [Channel.handles_of_receive_ended nothing isOpen] at handles
    cases handles
  | done all =>
    have ahead := stock.ahead
    have length := congrArg List.length stock.buffer
    rw [empty, List.length_nil, List.length_map, List.length_range'] at length
    exact ⟨by omega, rfl⟩

/-- Closing the queue does not matter to a producer that is done. -/
theorem Offers.close {channel : Channel DemoItem} {number budget : Nat} {waiting hasHandle : Bool}
    (offers : Offers config options channel number waiting hasHandle budget)
    (gone : hasHandle = false) :
    Offers config options channel.close.2 number waiting hasHandle budget := by
  cases offers with
  | done all handles => exact .done all handles
  | _ => cases gone

theorem Kept.work (kept : Kept config options identities run finished left)
    {clock : Calendar.Instant} (stepped : run.work? clock = some next) :
    ∃ less < left, Kept config options identities next finished less := by
  obtain ⟨received, rest, budget, stage, stock, offers, gone, rfl⟩ := kept.stands
  rw [work?_eq] at stepped
  obtain ⟨stride, isStride, rfl⟩ := Option.map_eq_some_iff.mp stepped
  cases Stage.turn (Worker.step_advance isStride) kept.calm stage with
  | quiet same arrives goesOn leaves =>
    rw [← same] at stock offers
    exact ⟨_, Nat.add_lt_add_left goesOn _,
      kept.follow clock arrives stock offers fun few => gone (leaves few)⟩
  | take took arrives =>
    obtain ⟨more, isNext, stock⟩ := stock.take took
    exact ⟨_, by omega, kept.follow clock (arrives isNext) stock (offers.take took)
      fun few => absurd few (by decide)⟩
  | desert nothing same arrives =>
    obtain ⟨isLast, handleGone⟩ := offers.deserted stock nothing
    rw [← same] at stock offers
    exact ⟨_, by omega, kept.follow clock (arrives isLast) stock offers fun _ => handleGone⟩
  | shut same arrives =>
    have handleGone : run.hasHandle = false := gone (by decide)
    have closed : Stock config options identities run.host.queue.channel.close.2 received
        run.next := stock.alike rfl rfl
    have offers := offers.close handleGone
    rw [← same] at closed offers
    exact ⟨_, by omega, kept.follow clock arrives closed offers fun _ => handleGone⟩
  | discard took isLast =>
    have more := (stock.take took).1
    omega

/-! ## Until nobody goes on -/

/-- Whoever goes on, fewer moves are left. -/
theorem Kept.perform (room : config.overflow = .wait ∨ options.items ≤ config.capacity)
    (kept : Kept config options identities run finished left) {clock : Calendar.Instant}
    {move : Move} (performed : run.perform? options identities clock move = some next) :
    ∃ less < left, Kept config options identities next
      (finished + if move = .land then 1 else 0) less := by
  cases move with
  | produce => exact kept.produce room performed
  | work => exact kept.work performed
  | land => exact (kept.land performed).2

/-- A worker that waits for an item gets one, or the producer goes on. -/
theorem Kept.feeds (kept : Kept config options identities run finished left)
    (clock : Calendar.Instant) (waits : run.host.worker.phase = .dequeuing)
    (idle : run.produce? options identities = none) : run.work? clock ≠ none := by
  obtain ⟨received, rest, budget, -, stock, offers, -⟩ := kept.stands
  have calm : (run.host.surroundings run.now).stopping = false := kept.calm
  rw [work?_eq, Worker.step, waits]
  dsimp only
  rw [Worker.dequeue, calm, if_neg Bool.false_ne_true, Channel.receive]
  cases buffer : run.host.queue.channel.buffer with
  | cons item rest =>
    intro waiting
    cases waiting
  | nil =>
    have gone : run.host.queue.channel.handles = 0 := by
      unfold produce? at idle
      generalize isWaiting : run.waiting = waiting at offers idle
      generalize isHeld : run.hasHandle = hasHandle at offers idle
      cases offers with
      | ready => split at idle <;> cases idle
      | queued isOpen handles waits noGrant policy more full =>
        have places : 1 ≤ config.places := Nat.le_max_right _ _
        rw [buffer, List.length_nil] at full
        omega
      | granted isOpen handles nobody grants policy more =>
        rw [if_pos more, if_pos rfl, grants] at idle
        cases idle
      | done all handles => exact handles
    rw [if_pos (Or.inl gone)]
    intro waiting
    cases waiting

/-- As long as the worker has not ended somebody goes on. -/
theorem Kept.goes_on (kept : Kept config options identities run finished left)
    (clock : Calendar.Instant)
    (stuck : ∀ move, run.perform? options identities clock move = none) :
    run.host.worker.phase = .ended := by
  have waits : run.work? clock = none := stuck .work
  have airborne : run.land? options identities = none := stuck .land
  have feeds := kept.feeds clock
  obtain ⟨received, rest, budget, stage, -⟩ := kept.stands
  have seen : (run.host.surroundings run.now).ended = run.host.ended := rfl
  rw [work?_eq, Worker.step, seen] at waits
  rw [land?] at airborne
  generalize isPhase : run.host.worker.phase = phase at stage waits
  generalize isFlight : run.flight = flight at stage airborne
  generalize isEnded : run.host.ended = ended at stage waits
  generalize isTold : run.bus.told = told at stage
  cases stage with
  | dequeuing => exact absurd (stuck .work) (feeds isPhase (stuck .produce))
  | executing => cases airborne
  | discarding =>
    dsimp only at waits
    split at waits <;> cases waits
  | leaving =>
    dsimp only at waits
    split at waits <;> cases waits
  | ended => rfl
  | _ => cases waits

theorem Stage.of_ended {phase : Phase DemoItem} {flight : Option DemoItem}
    {ended : Option ExecutionResult} {received rest : Nat} {told : List EventKind}
    (stage : Stage options identities phase flight ended finished received told rest)
    (hasEnded : phase = .ended) : finished = options.items ∧ told = options.story identities := by
  cases stage with
  | ended => exact ⟨rfl, rfl⟩
  | _ => cases hasEnded

/-- In the end everything is done and told. -/
theorem Kept.ended (kept : Kept config options identities run finished left)
    (hasEnded : run.host.worker.phase = .ended) :
    finished = options.items ∧ run.bus.told = options.story identities := by
  obtain ⟨received, rest, budget, stage, -⟩ := kept.stands
  exact stage.of_ended hasEnded

theorem Stage.bounds {phase : Phase DemoItem} {flight : Option DemoItem}
    {ended : Option ExecutionResult} {received rest : Nat} {told : List EventKind}
    (stage : Stage options identities phase flight ended finished received told rest)
    (within : received ≤ options.items) :
    finished ≤ options.items ∧ told.length ≤ 2 * options.items + 2 := by
  have count := options.length_opening identities
  cases stage with
  | starting => exact ⟨Nat.zero_le _, Nat.zero_le _⟩
  | executing | landed | reporting =>
    rw [List.length_append, count, List.length_singleton]
    omega
  | ended =>
    rw [DemoOptions.story, List.length_append, count, List.length_singleton]
    omega
  | _ =>
    rw [count]
    omega

/-- No more comes to its end, and no more is told, than there is. -/
theorem Kept.bounds (kept : Kept config options identities run finished left) :
    finished ≤ options.items ∧ run.bus.seq ≤ 2 * options.items + 2 := by
  obtain ⟨received, rest, budget, stage, stock, -⟩ := kept.stands
  have ahead := stock.ahead
  have within := stock.within
  rw [← EventBus.length_told]
  exact stage.bounds (by omega)

/-- The bus is made large enough to keep all events. -/
theorem Kept.keepsAll (fits : 4 * options.items ≤ EventBus.capacityLimit)
    (kept : Kept config options identities run finished left) : run.bus.seq ≤ run.bus.slots := by
  have enough : 2 * options.items + 2 ≤ options.busCapacity := by
    have word : EventBus.capacityLimit ≤ Text.wordLimit - 1 := by decide
    rw [DemoOptions.busCapacity]
    omega
  calc run.bus.seq
    _ ≤ 2 * options.items + 2 := kept.bounds.2
    _ ≤ options.busCapacity := enough
    _ ≤ (EventBus.create options.busCapacity).slots := EventBus.le_slots_create _
    _ = run.bus.slots := kept.bus.slots.symm

end DemoRun

end WorkHost
