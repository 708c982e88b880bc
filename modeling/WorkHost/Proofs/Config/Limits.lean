import WorkHost.Command.Program
import WorkHost.Proofs.Config.Settings
import WorkHost.Proofs.Host.StopRequest
import WorkHost.Proofs.Telemetry.Readings

/-!
Contract: which of the settings that are accepted can be used as they are.

A capacity and a timeout may be any numbers of 64 bits. A channel has fewer places, and a command
crashes over a capacity beyond them (`ProgramContext.serve_eq_crashed_iff`). Log lines hold the
timeout in milliseconds in 64 bits (`Interplay.run_tellsTimeout`), so a large one is told wrong.
-/

namespace WorkHost

/-! ## What log lines tell of the timeout -/

/-- The timeout that is told when the worker starts, and when it aborts an item. -/
def LogRecord.timeoutMs? : LogRecord → Option Nat
  | .line _ _ fields =>
    ((fields.lookup "shutdown_timeout_ms").or (fields.lookup "timeout_ms")).bind FieldValue.number?
  | _ => none

def Report.timeoutMs? : Report → Option Nat
  | .log record => record.timeoutMs?
  | _ => none

theorem loggedMs_eq_self_iff {milliseconds : Nat} :
    loggedMs milliseconds = milliseconds ↔ milliseconds < 2 ^ 64 := by
  rw [loggedMs, Nat.mod_eq_iff_lt (by decide), HostConfig.wordLimit_eq]

theorem Advance.timeouts {β : Type} [Queued β] {view : Surroundings} {worker : Worker β}
    {channel : Channel β} {stride : Stride β} (advance : Advance view worker channel stride) :
    stride.reports.filterMap Report.timeoutMs? = [] ∨
      stride.reports.filterMap Report.timeoutMs? = [loggedMs view.graceMs] := by
  cases advance with
  | begin phase => exact .inr rfl
  | report phase =>
    rename_i flight result
    cases result with
    | aborted => exact .inr rfl
    | _ => exact .inl rfl
  | sum phase =>
    rename_i count
    refine .inl ?_
    rcases Worker.discardReports_cases count with nothing | counted
    · exact congrArg (List.filterMap _) nothing
    · exact congrArg (List.filterMap _) counted
  | _ => exact .inl rfl

namespace Interplay

variable {α : Type} [Queued α]

/-- All timeouts that were told are the last 64 bits of the grace period. -/
def TellsTimeout (state : Interplay α) : Prop :=
  ∀ told ∈ state.record.reports.filterMap Report.timeoutMs?, told = loggedMs state.host.graceMs

theorem tellsTimeout_invariant : Invariant (TellsTimeout : Interplay α → Prop) where
  traffic _ _ _ tells := tells
  stop _ _ tells := tells
  conclude state result _ tells := by
    unfold conclude
    split <;> exact tells
  elapse _ _ _ tells := tells
  advance state stride _ advance tells := by
    intro told member
    have split : (state.advance stride).record.reports.filterMap Report.timeoutMs? =
        state.record.reports.filterMap Report.timeoutMs? ++
          stride.reports.filterMap Report.timeoutMs? := List.filterMap_append
    rw [split, List.mem_append] at member
    rcases member with before | added
    · exact tells told before
    · rcases advance.timeouts with none | one
      · rw [none] at added
        cases added
      · rw [one] at added
        exact List.mem_singleton.mp added
  collapse _ _ _ _ _ tells := tells

theorem run_tellsTimeout (config : QueueConfig) (moves : List (Move α)) :
    ∀ told ∈ ((create config).run moves).record.reports.filterMap Report.timeoutMs?,
      told = loggedMs config.shutdownTimeoutMs := by
  have tells : ((create config).run moves).TellsTimeout :=
    tellsTimeout_invariant.run (reached_create config) nofun moves
  rw [TellsTimeout, run_graceMs] at tells
  exact tells

/-- The first step of the worker tells the timeout. -/
theorem first_timeout (config : QueueConfig) :
    ((create config : Interplay α).run [.work none]).record.reports.filterMap
      Report.timeoutMs? = [loggedMs config.shutdownTimeoutMs] := rfl

end Interplay

/-! ## What a queue can be made with -/

namespace ProgramContext

theorem crashed_ne_succeeded (shown output : List OutputLine) :
    ProgramResult.crashed shown ≠ .succeeded output := nofun

theorem crashed_ne_failed (shown : List OutputLine) (failure : Failure) :
    ProgramResult.crashed shown ≠ .failed failure := nofun

/-- A service crashes over its queue, once its jobs are known. -/
theorem serve_eq_crashed_iff {context : ProgramContext} {options : ServeOptions} {file : JobsFile}
    (loads : context.loadJobs options.jobs = .ok file) (config : HostConfig) :
    context.serve config options = .crashed [] ↔ Channel.placeLimit < config.queue.capacity := by
  unfold serve
  rw [loads]
  apply Ne.ite_eq_left_iff
  split
  · exact crashed_ne_failed [] _
  · exact crashed_ne_succeeded [] _

/-- A demonstration crashes over its queue, if its events can be kept. Its printer has heard of
none of them by then. -/
theorem demo_eq_crashed_iff {options : DemoOptions}
    (fits : options.busCapacity ≤ EventBus.capacityLimit) (context : ProgramContext)
    (config : HostConfig) :
    context.demo config options = .crashed (options.shown []) ↔
      Channel.placeLimit < config.queue.capacity := by
  unfold demo
  rw [if_neg (Nat.not_lt.mpr fits)]
  apply Ne.ite_eq_left_iff
  split
  · exact crashed_ne_failed _ _
  · exact crashed_ne_succeeded _ _

end ProgramContext

namespace HostConfig

open Text

theorem placeLimit_eq : Channel.placeLimit = 2 ^ 61 - 1 := by decide

/-- A bound on a setting is a bound on what is written for it, if the default is within. -/
theorem Stands.le_iff {environment : Environment} {name : String} {default value bound : Nat}
    (stands : Stands environment name IsWord default value) (within : default ≤ bound) :
    value ≤ bound ↔
      ∀ raw written, environment name = some raw → IsNumeral raw.toList written →
        written ≤ bound := by
  constructor
  · intro below raw written isSet numeral
    exact numeral.unique (stands.written isSet).1 ▸ below
  · intro bounded
    cases isSet : environment name with
    | none =>
      rw [Stands, isSet] at stands
      exact stands ▸ within
    | some raw => exact bounded raw value isSet (stands.written isSet).1

/-- A queue can be made up to a capacity, and a command crashes over any larger one. -/
structure LimitsQueue (environment : Environment) (config : HostConfig) : Prop where
  isWord : 1 ≤ config.queue.capacity ∧ config.queue.capacity < 2 ^ 64
  serve_eq_crashed_iff : ∀ (context : ProgramContext) (options : ServeOptions) (file : JobsFile),
    context.loadJobs options.jobs = .ok file →
      (context.serve config options = .crashed [] ↔ 2 ^ 61 - 1 < config.queue.capacity)
  demo_eq_crashed_iff : ∀ (context : ProgramContext) (options : DemoOptions),
    options.busCapacity ≤ EventBus.capacityLimit →
      (context.demo config options = .crashed (options.shown []) ↔
        2 ^ 61 - 1 < config.queue.capacity)
  written_iff : config.queue.capacity ≤ 2 ^ 61 - 1 ↔
    ∀ raw written, environment capacityName = some raw → IsNumeral raw.toList written →
      written ≤ 2 ^ 61 - 1

/-- In every run of the worker the log lines tell the timeout in 64 bits, and so they tell a
short timeout as it is. -/
structure LimitsTimeout (α : Type) [Queued α] (environment : Environment) (config : HostConfig) :
    Prop where
  told : ∀ moves, ∀ milliseconds ∈ ((Interplay.create config.queue : Interplay α).run
    moves).record.reports.filterMap Report.timeoutMs?,
      milliseconds = config.queue.shutdownTimeoutMs % 2 ^ 64
  exact_iff : (∀ moves, ∀ milliseconds ∈ ((Interplay.create config.queue : Interplay α).run
    moves).record.reports.filterMap Report.timeoutMs?,
      milliseconds = config.queue.shutdownTimeoutMs) ↔ config.queue.shutdownTimeoutMs < 2 ^ 64
  written_iff : config.queue.shutdownTimeoutMs < 2 ^ 64 ↔
    ∀ raw seconds, environment timeoutName = some raw → IsNumeral raw.toList seconds →
      seconds ≤ 18446744073709551

/-- Any capacity and any timeout of 64 bits are accepted. Those up to `2 ^ 61 - 1` places can be
used, and those of at most `18446744073709551` seconds are told as they are. -/
theorem accepted_settings_meet_limits_iff {environment : Environment} {config : HostConfig}
    (accepted : ofEnvironment environment = .ok config) (α : Type) [Queued α] :
    LimitsQueue environment config ∧ LimitsTimeout α environment config := by
  have given := ofEnvironment_eq_ok_iff.mp accepted
  obtain ⟨seconds, stands, isTimeout⟩ := given.timeout
  refine ⟨⟨⟨given.positive, ?_⟩, ?_, ?_, given.capacity.le_iff (by decide)⟩, ⟨?_, ?_, ?_⟩⟩
  · cases isSet : environment capacityName with
    | none =>
      have isDefault := given.capacity
      rw [Stands, isSet] at isDefault
      rw [isDefault]
      decide
    | some raw => exact (given.capacity.written isSet).2
  · intro context options file loads
    rw [ProgramContext.serve_eq_crashed_iff loads, placeLimit_eq]
  · intro context options fits
    rw [ProgramContext.demo_eq_crashed_iff fits, placeLimit_eq]
  · intro moves
    rw [← wordLimit_eq]
    exact Interplay.run_tellsTimeout config.queue moves
  · rw [← loggedMs_eq_self_iff]
    constructor
    · intro same
      refine same [.work none] _ ?_
      rw [Interplay.first_timeout]
      exact List.mem_singleton_self _
    · intro same moves milliseconds member
      exact (Interplay.run_tellsTimeout config.queue moves milliseconds member).trans same
  · rw [← stands.le_iff (by decide), isTimeout]
    omega

/-- The variables of the queue's sizes, and no others. -/
def sized (capacity seconds : String) : Environment := fun name =>
  if name = capacityName then some capacity
  else if name = timeoutName then some seconds
  else none

/-- The greatest settings that can be used and are told as they are. -/
theorem accepted_settings_meet_limits_iff_greatest :
    let environment := sized "+2305843009213693951" "0018446744073709551"
    let config : HostConfig :=
      ⟨⟨2305843009213693951, .wait, 18446744073709551000⟩, none, "info"⟩
    ofEnvironment environment = .ok config ∧
      LimitsQueue environment config ∧ LimitsTimeout WorkItem environment config :=
  ⟨by decide +kernel, accepted_settings_meet_limits_iff (by decide +kernel) WorkItem⟩

/-- One place and one second more are accepted too. No queue can be made then, and the worker
would tell 384 milliseconds. -/
theorem accepted_settings_exceed_limits :
    ∃ config : HostConfig,
      ofEnvironment (sized "2305843009213693952" "18446744073709552") = .ok config ∧
        ¬ config.queue.capacity ≤ 2 ^ 61 - 1 ∧ ¬ config.queue.shutdownTimeoutMs < 2 ^ 64 ∧
        (∀ context : ProgramContext, context.serve config .default = .crashed [] ∧
          context.demo config ⟨0, 4, 50, true⟩ = .crashed []) ∧
        ((Interplay.create config.queue : Interplay WorkItem).run
          [.work none]).record.reports.filterMap Report.timeoutMs? = [384] := by
  refine ⟨⟨⟨2305843009213693952, .wait, 18446744073709552000⟩, none, "info"⟩, by decide +kernel,
    by decide, by decide, fun context => ?_, ?_⟩
  · exact ⟨(ProgramContext.serve_eq_crashed_iff rfl _).mpr (by decide),
      (ProgramContext.demo_eq_crashed_iff (by decide) context _).mpr (by decide)⟩
  · exact Interplay.first_timeout _

end HostConfig

end WorkHost
