import WorkHost.Proofs.Command.Progress

/-!
Contract: the demonstration accounts for every item.

By itself it takes one of the possible moves after the other until there is none
(`runDemo_accounts`). In a rehearsal the producer, the worker, the item in flight, the clock
and the printer of events go on in any order; whatever the order, the printer hears of no lag
and everything comes to the same end (`Rehearsal.Orderly`). What cannot be made is a queue
with more places than its channel can have: the program ends then before any item is enqueued.
-/

namespace WorkHost

/-! ## The demonstration by itself -/

namespace DemoRun

variable {config : QueueConfig} {options : DemoOptions} {identities : DemoIdentities}
  {run next : DemoRun} {finished left : Nat}

theorem Kept.accounts (kept : Kept config options identities run finished left)
    (hasEnded : run.host.worker.phase = .ended) :
    options.Accounts identities run.bus.emitted.toList where
  kinds := by
    rw [← (kept.ended hasEnded).2, EventBus.told, EventBus.kinds, List.map_map]
    rfl
  numbers := by
    rw [Minutes.emitted_seqs kept.bus.numbered, ← EventBus.length_told, (kept.ended hasEnded).2,
      DemoOptions.story, List.length_append, DemoOptions.length_opening]
    rfl

/-- The next step is a move, if there is one. -/
theorem step?_cases (accepted : run.refusal = none) (clock : Calendar.Instant) :
    (run.step? options identities clock = none ∧
        ∀ move, run.perform? options identities clock move = none) ∨
      ∃ move next, run.step? options identities clock = some next ∧
        run.perform? options identities clock move = some next := by
  have step : run.step? options identities clock =
      ((run.produce? options identities).or (run.work? clock)).or
        (run.land? options identities) := by
    rw [step?, accepted]
    rfl
  rw [step]
  cases produced : run.produce? options identities with
  | some next => exact .inr ⟨.produce, next, rfl, produced⟩
  | none =>
    cases worked : run.work? clock with
    | some next => exact .inr ⟨.work, next, rfl, worked⟩
    | none =>
      cases landed : run.land? options identities with
      | some next => exact .inr ⟨.land, next, rfl, landed⟩
      | none =>
        refine .inl ⟨rfl, fun move => ?_⟩
        cases move with
        | produce => exact produced
        | work => exact worked
        | land => exact landed

/-- With enough fuel a demonstration comes to its end. -/
theorem Kept.runFor (room : config.overflow = .wait ∨ options.items ≤ config.capacity)
    (kept : Kept config options identities run finished left) (clock : Calendar.Instant)
    {fuel : Nat} (enough : left < fuel) :
    ∃ finished left,
      Kept config options identities (runFor options identities clock fuel run) finished left ∧
        (DemoRun.runFor options identities clock fuel run).host.worker.phase = .ended := by
  induction fuel generalizing run finished left with
  | zero => cases enough
  | succ fuel inductionHypothesis =>
    rw [DemoRun.runFor]
    rcases step?_cases kept.accepted clock with ⟨stops, stuck⟩ | ⟨move, next, steps, performed⟩
    · rw [stops]
      exact ⟨finished, left, kept, kept.goes_on clock stuck⟩
    · rw [steps]
      obtain ⟨less, fewer, kept⟩ := kept.perform room performed
      exact inductionHypothesis kept (by omega)

/-- Emitting comes after what was emitted. -/
theorem emitted_emit (clock : Calendar.Instant) (now : Nat) (bus : EventBus)
    (reports : List Report) :
    bus.emitted.toList <+: (reports.foldl (emit clock now) bus).emitted.toList := by
  induction reports generalizing bus with
  | nil => exact List.prefix_rfl
  | cons report rest inductionHypothesis =>
    refine List.IsPrefix.trans ?_ (inductionHypothesis (emit clock now bus report))
    cases report with
    | event kind =>
      rw [emit, EventBus.emit, Array.toList_push]
      exact List.prefix_append _ _
    | log | measure => exact List.prefix_rfl

theorem bus_conclude (run : DemoRun) (progress : Enqueueing) (queue : TaskQueue DemoItem) :
    (run.conclude progress queue).bus = run.bus := by
  rcases progress with (_ | _) | _ <;> rfl

theorem bus_produce? (produced : run.produce? options identities = some next) :
    next.bus = run.bus := by
  unfold produce? at produced
  dsimp only at produced
  split at produced
  · split at produced
    · split at produced
      · rw [← Option.some.inj produced, bus_conclude]
      · cases produced
    · rw [← Option.some.inj produced, bus_conclude]
  · split at produced
    · rw [← Option.some.inj produced]
    · cases produced

/-- Only the worker emits. -/
theorem emitted_perform? {clock : Calendar.Instant} {move : Move}
    (performed : run.perform? options identities clock move = some next) :
    run.bus.emitted.toList <+: next.bus.emitted.toList := by
  cases move with
  | produce =>
    have same : next.bus = run.bus := bus_produce? performed
    exact same ▸ List.prefix_rfl
  | work =>
    obtain ⟨stride, -, rfl⟩ := Option.map_eq_some_iff.mp performed
    exact emitted_emit clock run.now run.bus stride.reports
  | land =>
    obtain ⟨item, -, rfl⟩ := Option.map_eq_some_iff.mp performed
    exact List.prefix_rfl

end DemoRun

/-- What the demonstration shows tells the whole story. -/
theorem runDemo_accounts {config : QueueConfig} {options : DemoOptions}
    (identities : DemoIdentities) (clock : Calendar.Instant)
    (room : config.overflow = .wait ∨ options.items ≤ config.capacity)
    (fits : 4 * options.items ≤ EventBus.capacityLimit) :
    ∃ events, options.Accounts identities events ∧
      runDemo config options identities clock = .ok events := by
  have enough : 8 * options.items + 8 < DemoRun.fuel options := by
    rw [DemoRun.fuel]
    omega
  obtain ⟨finished, left, kept, hasEnded⟩ :=
    (DemoRun.start_kept config options identities).runFor room clock enough
  refine ⟨_, kept.accounts hasEnded, ?_⟩
  have heard := EventBus.drainAll_of_kept (kept.keepsAll fits)
  rw [runDemo, DemoRun.finish, kept.accepted]
  dsimp only
  rw [DemoRun.start, EventBus.subscribe]
  refine congrArg Except.ok ((congrArg printedEvents heard).trans ?_)
  exact (kept.accounts hasEnded).printedEvents_eq

/-! ## The demonstration with its printer -/

/-- A demonstration under way, what has come to its end, and what its printer has heard. -/
structure Rehearsal where
  run : DemoRun
  /-- How many moves were made. -/
  moved : Nat
  /-- The items that have come to their end, and how. -/
  executed : List (DemoItem × ExecutionResult)
  printer : Subscription
  heard : List Reception

namespace Rehearsal

/-- What may go on: somebody in the demonstration, the clock, the printer. -/
inductive Move where
  | go (move : DemoRun.Move)
  | pass (milliseconds : Nat)
  | print
deriving DecidableEq, Repr

def start (config : QueueConfig) (options : DemoOptions) : Rehearsal where
  run := .start config options
  moved := 0
  executed := []
  printer := (EventBus.create options.busCapacity).subscribe
  heard := []

/-- What has come to its end by a move. -/
def ending (run next : DemoRun) : DemoRun.Move → List (DemoItem × ExecutionResult)
  | .land => run.flight.toList.zip next.host.ended.toList
  | _ => []

/-- Moves that are not possible change nothing. -/
def perform (options : DemoOptions) (identities : DemoIdentities) (clock : Calendar.Instant)
    (rehearsal : Rehearsal) : Move → Rehearsal
  | .go move =>
    match rehearsal.run.perform? options identities clock move with
    | none => rehearsal
    | some next =>
      { rehearsal with
        run := next
        moved := rehearsal.moved + 1
        executed := rehearsal.executed ++ ending rehearsal.run next move }
  | .pass milliseconds =>
    { rehearsal with run := { rehearsal.run with now := rehearsal.run.now + milliseconds } }
  | .print =>
    match rehearsal.run.bus.receive rehearsal.printer with
    | (.empty, _) | (.closed, _) => rehearsal
    | (reception, printer) =>
      { rehearsal with
        printer
        heard := rehearsal.heard ++ [reception] }

/-- Whoever goes on, and in whichever order. -/
def performAll (options : DemoOptions) (identities : DemoIdentities) (clock : Calendar.Instant)
    (rehearsal : Rehearsal) (moves : List Move) : Rehearsal :=
  moves.foldl (perform options identities clock) rehearsal

/-- Nobody can go on, and nothing is left to print. -/
def IsAtRest (options : DemoOptions) (identities : DemoIdentities) (clock : Calendar.Instant)
    (rehearsal : Rehearsal) : Prop :=
  (∀ move, rehearsal.run.perform? options identities clock move = none) ∧
    rehearsal.perform options identities clock .print = rehearsal

/-- What a rehearsal never does wrong, that it can always come to rest, and what it has come to
then. -/
structure Orderly (options : DemoOptions) (identities : DemoIdentities)
    (clock : Calendar.Instant) (rehearsal : Rehearsal) : Prop where
  accepted : rehearsal.run.refusal = none
  bounded : rehearsal.moved ≤ 8 * options.items + 8
  inOrder : rehearsal.executed <+: options.executions identities
  heard : rehearsal.heard <+: rehearsal.run.bus.emitted.toList.map .event
  punctual : ∀ missed, .lagged missed ∉ rehearsal.heard
  goesOn : ∃ moves,
    (rehearsal.performAll options identities clock moves).IsAtRest options identities clock
  atRest : rehearsal.IsAtRest options identities clock →
    rehearsal.executed = options.executions identities ∧
      ∃ events, options.Accounts identities events ∧ rehearsal.heard = events.map .event ∧
        options.shown (printedEvents rehearsal.heard) = options.due events

/-- What every move keeps. -/
structure Kept (config : QueueConfig) (options : DemoOptions) (identities : DemoIdentities)
    (rehearsal : Rehearsal) : Prop where
  run : ∃ left,
    DemoRun.Kept config options identities rehearsal.run rehearsal.executed.length left ∧
      rehearsal.moved + left ≤ 8 * options.items + 8
  inOrder : rehearsal.executed <+: options.executions identities
  heard : ∃ count, rehearsal.printer = ⟨count + 1⟩ ∧ count ≤ rehearsal.run.bus.seq ∧
    rehearsal.heard = (rehearsal.run.bus.emitted.toList.take count).map .event

variable {config : QueueConfig} {options : DemoOptions} {identities : DemoIdentities}
  {rehearsal : Rehearsal}

theorem start_kept (config : QueueConfig) (options : DemoOptions) (identities : DemoIdentities) :
    (start config options).Kept config options identities where
  run := ⟨_, DemoRun.start_kept config options identities, Nat.le_of_eq (Nat.zero_add _)⟩
  inOrder := List.nil_prefix
  heard := ⟨0, rfl, Nat.le_refl 0, rfl⟩

/-- The printer has heard what it had heard when more was emitted. -/
theorem Kept.heard_of_prefix (kept : rehearsal.Kept config options identities) {next : DemoRun}
    (more : rehearsal.run.bus.emitted.toList <+: next.bus.emitted.toList) :
    ∃ count, rehearsal.printer = ⟨count + 1⟩ ∧ count ≤ next.bus.seq ∧
      rehearsal.heard = (next.bus.emitted.toList.take count).map .event := by
  obtain ⟨count, reads, within, heard⟩ := kept.heard
  obtain ⟨later, same⟩ := more
  have size : count ≤ rehearsal.run.bus.emitted.toList.length := by
    rw [Array.length_toList]
    exact within
  refine ⟨count, reads, ?_, ?_⟩
  · rw [EventBus.seq, ← Array.length_toList, ← same, List.length_append]
    exact Nat.le_add_right_of_le size
  · rw [heard, ← same, List.take_append_of_le_length size]

theorem ending_land {run next : DemoRun} {item : DemoItem}
    (landed : run.land? options identities = some next) (flight : run.flight = some item) :
    ending run next .land = [(item, options.result identities item)] := by
  rw [DemoRun.land?, flight] at landed
  rw [← Option.some.inj landed, ending, flight]
  rfl

/-- The item that comes to its end is the next in order, and it ends as is due. -/
theorem Kept.inOrder_of_perform? (kept : rehearsal.Kept config options identities)
    {clock : Calendar.Instant} {move : DemoRun.Move} {next : DemoRun}
    (performed : rehearsal.run.perform? options identities clock move = some next) :
    rehearsal.executed ++ ending rehearsal.run next move <+: options.executions identities ∧
      (rehearsal.executed ++ ending rehearsal.run next move).length =
        rehearsal.executed.length + if move = .land then 1 else 0 := by
  cases move with
  | produce | work => exact ⟨(List.append_nil _).symm ▸ kept.inOrder, by simp [ending]⟩
  | land =>
    obtain ⟨left, runKept, -⟩ := kept.run
    obtain ⟨flight, less, -, landed⟩ := runKept.land performed
    have inside : rehearsal.executed.length < (options.executions identities).length := by
      rw [DemoOptions.executions, List.length_map, List.length_range']
      exact landed.bounds.1
    have isNext : (options.executions identities)[rehearsal.executed.length] =
        (identities.demoItem (rehearsal.executed.length + 1),
          options.verdict identities (rehearsal.executed.length + 1)) := by
      simp [DemoOptions.executions, Nat.add_comm]
    have ends : ending rehearsal.run next .land =
        [(options.executions identities)[rehearsal.executed.length]] := by
      rw [isNext, ending_land performed flight, DemoOptions.result_demoItem]
    rw [ends]
    refine ⟨?_, by simp⟩
    have before := List.prefix_iff_eq_take.mp kept.inOrder
    rw [List.prefix_iff_eq_take, List.length_append, List.length_singleton,
      ← List.take_append_getElem inside, ← before]

/-- The printer reads on, or it has heard everything and waits. -/
theorem Kept.print (fits : 4 * options.items ≤ EventBus.capacityLimit)
    (kept : rehearsal.Kept config options identities) (clock : Calendar.Instant) :
    (rehearsal.heard = rehearsal.run.bus.emitted.toList.map .event ∧
        rehearsal.perform options identities clock .print = rehearsal) ∨
      ∃ count event, rehearsal.run.bus.emitted[count]? = some event ∧
        rehearsal.heard = (rehearsal.run.bus.emitted.toList.take count).map .event ∧
        rehearsal.perform options identities clock .print =
          { rehearsal with
            printer := ⟨count + 2⟩
            heard := rehearsal.heard ++ [.event event] } := by
  obtain ⟨left, runKept, -⟩ := kept.run
  obtain ⟨count, reads, -, heard⟩ := kept.heard
  have received := EventBus.receive_of_kept (runKept.keepsAll fits) count
  cases found : rehearsal.run.bus.emitted[count]? with
  | none =>
    refine .inl ⟨?_, ?_⟩
    · have all : rehearsal.run.bus.emitted.toList.length ≤ count := by
        rw [Array.length_toList]
        exact Array.getElem?_eq_none_iff.mp found
      rw [heard, List.take_of_length_le all]
    · rw [found] at received
      by_cases gone : rehearsal.run.bus.handles = 0
      · rw [perform, reads, received]
        simp only [if_pos gone]
      · rw [perform, reads, received]
        simp only [if_neg gone]
  | some event =>
    rw [found] at received
    refine .inr ⟨count, event, found, heard, ?_⟩
    rw [perform, reads, received]

theorem perform_kept (room : config.overflow = .wait ∨ options.items ≤ config.capacity)
    (fits : 4 * options.items ≤ EventBus.capacityLimit)
    (kept : rehearsal.Kept config options identities) (clock : Calendar.Instant) (move : Move) :
    (rehearsal.perform options identities clock move).Kept config options identities := by
  obtain ⟨left, runKept, bounded⟩ := kept.run
  cases move with
  | go move =>
    cases performed : rehearsal.run.perform? options identities clock move with
    | none =>
      rw [perform, performed]
      exact kept
    | some next =>
      obtain ⟨less, fewer, nextKept⟩ := runKept.perform room performed
      obtain ⟨inOrder, counted⟩ := kept.inOrder_of_perform? performed
      rw [perform, performed]
      refine ⟨⟨less, ?_, ?_⟩, inOrder, kept.heard_of_prefix (DemoRun.emitted_perform? performed)⟩
      · rw [← counted] at nextKept
        exact nextKept
      · show rehearsal.moved + 1 + less ≤ _
        omega
  | pass milliseconds =>
    exact ⟨⟨left, runKept.pass milliseconds, bounded⟩, kept.inOrder, kept.heard⟩
  | print =>
    rcases kept.print fits clock with ⟨-, same⟩ | ⟨count, event, found, heard, prints⟩
    · rw [same]
      exact kept
    · rw [prints]
      refine ⟨⟨left, runKept, bounded⟩, kept.inOrder, count + 1, rfl, ?_, ?_⟩
      · exact (Array.getElem?_eq_some_iff.mp found).1
      · show rehearsal.heard ++ [.event event] = _
        rw [← Array.getElem?_toList] at found
        rw [heard, List.take_add_one, found, List.map_append]
        rfl

theorem performAll_kept (room : config.overflow = .wait ∨ options.items ≤ config.capacity)
    (fits : 4 * options.items ≤ EventBus.capacityLimit)
    (kept : rehearsal.Kept config options identities) (clock : Calendar.Instant)
    (moves : List Move) :
    (rehearsal.performAll options identities clock moves).Kept config options identities := by
  induction moves generalizing rehearsal with
  | nil => exact kept
  | cons move rest inductionHypothesis =>
    exact inductionHypothesis (perform_kept room fits kept clock move)

/-- When nobody goes on in the demonstration, the printer reads what is left. -/
theorem Kept.reads_on (room : config.overflow = .wait ∨ options.items ≤ config.capacity)
    (fits : 4 * options.items ≤ EventBus.capacityLimit)
    (kept : rehearsal.Kept config options identities) {clock : Calendar.Instant}
    (stuck : ∀ move, rehearsal.run.perform? options identities clock move = none) {unread : Nat}
    (enough : rehearsal.run.bus.seq ≤ rehearsal.heard.length + unread) :
    ∃ moves,
      (rehearsal.performAll options identities clock moves).IsAtRest options identities clock := by
  induction unread generalizing rehearsal with
  | zero =>
    rcases kept.print fits clock with ⟨-, same⟩ | ⟨count, event, found, heard, -⟩
    · exact ⟨[], stuck, same⟩
    · have inside : count < rehearsal.run.bus.seq := (Array.getElem?_eq_some_iff.mp found).1
      rw [heard, List.length_map, List.length_take] at enough
      omega
  | succ unread inductionHypothesis =>
    rcases kept.print fits clock with ⟨-, same⟩ | ⟨count, event, -, -, prints⟩
    · exact ⟨[], stuck, same⟩
    · have later := perform_kept room fits kept clock .print
      rw [prints] at later
      have fewer : rehearsal.run.bus.seq ≤
          (rehearsal.heard ++ [Reception.event event]).length + unread := by
        rw [List.length_append, List.length_singleton]
        omega
      obtain ⟨moves, rests⟩ := inductionHypothesis later stuck fewer
      refine ⟨.print :: moves, ?_⟩
      rw [← prints] at rests
      exact rests

/-- Everything comes to rest if somebody goes on as long as anybody can. -/
theorem Kept.comes_to_rest (room : config.overflow = .wait ∨ options.items ≤ config.capacity)
    (fits : 4 * options.items ≤ EventBus.capacityLimit)
    (kept : rehearsal.Kept config options identities) (clock : Calendar.Instant) :
    ∃ moves,
      (rehearsal.performAll options identities clock moves).IsAtRest options identities clock := by
  induction left : 8 * options.items + 8 - rehearsal.moved generalizing rehearsal with
  | zero =>
    refine kept.reads_on room fits (fun move => ?_) (Nat.le_add_left _ _)
    obtain ⟨left, runKept, bounded⟩ := kept.run
    rw [Option.eq_none_iff_forall_ne_some]
    intro next performed
    obtain ⟨less, fewer, -⟩ := runKept.perform room performed
    omega
  | succ left inductionHypothesis =>
    by_cases stuck : ∀ move, rehearsal.run.perform? options identities clock move = none
    · exact kept.reads_on room fits stuck (Nat.le_add_left _ _)
    · obtain ⟨move, goes⟩ := Classical.not_forall.mp stuck
      obtain ⟨next, performed⟩ := Option.ne_none_iff_exists'.mp goes
      have later := perform_kept room fits kept clock (.go move)
      have counts : (rehearsal.perform options identities clock (.go move)).moved =
          rehearsal.moved + 1 := by
        rw [perform, performed]
      obtain ⟨moves, rests⟩ := inductionHypothesis later (by omega)
      exact ⟨.go move :: moves, rests⟩

theorem Kept.orderly (room : config.overflow = .wait ∨ options.items ≤ config.capacity)
    (fits : 4 * options.items ≤ EventBus.capacityLimit)
    (kept : rehearsal.Kept config options identities) (clock : Calendar.Instant) :
    rehearsal.Orderly options identities clock := by
  obtain ⟨left, runKept, bounded⟩ := kept.run
  obtain ⟨count, -, -, heard⟩ := kept.heard
  refine ⟨runKept.accepted, Nat.le_of_add_right_le bounded, kept.inOrder, ?_, ?_,
    kept.comes_to_rest room fits clock, ?_⟩
  · rw [heard]
    exact (List.take_prefix _ _).map _
  · intro missed lagged
    rw [heard] at lagged
    obtain ⟨event, -, isLag⟩ := List.mem_map.mp lagged
    cases isLag
  · rintro ⟨stuck, printed⟩
    have hasEnded := runKept.goes_on clock stuck
    have accounts := runKept.accounts hasEnded
    have all : rehearsal.heard = rehearsal.run.bus.emitted.toList.map .event := by
      rcases kept.print fits clock with ⟨all, -⟩ | ⟨count, event, -, -, prints⟩
      · exact all
      · have longer := congrArg (·.heard.length) (prints.symm.trans printed)
        simp at longer
    refine ⟨kept.inOrder.eq_of_length ?_, _, accounts, all, ?_⟩
    · rw [(runKept.ended hasEnded).1, DemoOptions.executions, List.length_map, List.length_range']
    · rw [all, accounts.printedEvents_eq, accounts.shown_eq]

end Rehearsal

theorem DemoOptions.busCapacity_le {options : DemoOptions}
    (fits : 4 * options.items ≤ EventBus.capacityLimit) :
    options.busCapacity ≤ EventBus.capacityLimit := by
  have least : 16 ≤ EventBus.capacityLimit := by decide
  rw [busCapacity]
  omega

/-- The demonstration accounts for every item unless its queue cannot be made: it shows the
whole story, and so does every rehearsal of it. Without a queue it shows what is printed of no
event at all. -/
theorem ProgramContext.demo_accounts_for_every_item (context : ProgramContext)
    (config : HostConfig) (options : DemoOptions)
    (room : config.queue.overflow = .wait ∨ options.items ≤ config.queue.capacity)
    (fits : 4 * options.items ≤ EventBus.capacityLimit) :
    (Channel.placeLimit < config.queue.capacity →
        context.demo config options = .crashed (options.shown [])) ∧
      (config.queue.capacity ≤ Channel.placeLimit →
        (∃ events, options.Accounts context.identities events ∧
          context.demo config options = .succeeded (options.due events)) ∧
        ∀ moves,
          ((Rehearsal.start config.queue options).performAll options context.identities
            context.clock moves).Orderly options context.identities context.clock) := by
  have hasBus : ¬ EventBus.capacityLimit < options.busCapacity :=
    Nat.not_lt.mpr (DemoOptions.busCapacity_le fits)
  refine ⟨fun large => by rw [demo, if_neg hasBus, if_pos large],
    fun small => ⟨?_, fun moves => ?_⟩⟩
  · obtain ⟨events, accounts, shows⟩ :=
      runDemo_accounts context.identities context.clock room fits
    refine ⟨events, accounts, ?_⟩
    rw [demo, if_neg hasBus, if_neg (Nat.not_lt.mpr small), shows, ← accounts.shown_eq]
  · have start := Rehearsal.start_kept config.queue options context.identities
    exact (Rehearsal.performAll_kept room fits start context.clock moves).orderly room fits
      context.clock

/-- A program with nothing around it, whose identifiers repeat the last digit of a number. -/
def ProgramContext.bare : ProgramContext where
  environment _ := none
  envFile := none
  read _ := .failed JobsFile.notFound
  malformed := ""
  identities := ⟨repeated, repeated⟩
  clock := ⟨0, 0⟩
where
  repeated (number : Nat) : WorkId :=
    ⟨.replicate 32 ⟨number % 16, Nat.mod_lt number (by decide)⟩, List.length_replicate⟩

/-- Three items pass through a queue with one place, and the second one fails. -/
theorem ProgramContext.demo_accounts_for_every_item_of_three :
    let options : DemoOptions := ⟨3, 2, 0, false⟩
    let config : HostConfig := ⟨⟨1, .wait, 0⟩, none, ""⟩
    bare.demo config options = .succeeded [.text "completed: 2, failed: 1"] ∧
      ∀ moves,
        ((Rehearsal.start config.queue options).performAll options bare.identities bare.clock
          moves).Orderly options bare.identities bare.clock := by
  intro options config
  obtain ⟨⟨events, -, shows⟩, orderly⟩ :=
    (demo_accounts_for_every_item bare config options (.inl rfl) (by decide)).2 (by decide)
  have line : "completed: " ++ toString (3 - 3 / 2) ++ ", failed: " ++ toString (3 / 2) =
      "completed: 2, failed: 1" := by decide
  have due : options.due events = [.text "completed: 2, failed: 1"] :=
    congrArg (fun line => [OutputLine.text line]) line
  exact ⟨shows.trans (congrArg ProgramResult.succeeded due), orderly⟩

/-- A queue with a place more than a channel can have cannot be made, and no event is printed. -/
theorem ProgramContext.demo_accounts_for_nothing_in_a_large_queue :
    let options : DemoOptions := ⟨1, 4, 0, true⟩
    let config : HostConfig := ⟨⟨Nat.pow 2 61, .wait, 0⟩, none, ""⟩
    4 * options.items ≤ EventBus.capacityLimit ∧
      bare.demo config options = .crashed [] ∧
      ¬ ∃ events, options.Accounts bare.identities events ∧
        bare.demo config options = .succeeded (options.due events) := by
  intro options config
  have crashes : bare.demo config options = .crashed [] := by
    rw [demo, if_neg (by decide), if_pos (by decide)]
    rfl
  refine ⟨by decide, crashes, ?_⟩
  rintro ⟨events, -, shows⟩
  cases crashes.symm.trans shows

end WorkHost
