import WorkHost.Failure
import WorkHost.Queue.Policy
import WorkHost.Text.Numeral

/-!
Contract: the settings of the host, read from environment variables.

A variable that is not set has a default. One that is set but malformed is a failure
that quotes it; the checks are made in the order of the fields.
-/

namespace WorkHost

/-- Sizing and shutdown behaviour of the queue and its worker. -/
structure QueueConfig where
  /-- How many items may be buffered. -/
  capacity : Nat
  overflow : OverflowPolicy
  /-- How long the item in flight may run after a stop was requested. -/
  shutdownTimeoutMs : Nat
deriving DecidableEq, Repr

/-- The buffer holds at least one item. -/
def QueueConfig.places (config : QueueConfig) : Nat := max config.capacity 1

def defaultCapacity : Nat := 100

def defaultShutdownTimeoutMs : Nat := 30 * 1000

def QueueConfig.default : QueueConfig := ⟨defaultCapacity, .wait, defaultShutdownTimeoutMs⟩

structure HostConfig where
  queue : QueueConfig
  otelEndpoint : Option String
  logLevel : String
deriving DecidableEq, Repr

/-- The variables that have a value that is text. -/
abbrev Environment := String → Option String

namespace HostConfig

/-- The variables that are read. -/
def capacityName : String := "TASK_QUEUE_CAPACITY"
def overflowName : String := "TASK_QUEUE_OVERFLOW"
def timeoutName : String := "TASK_QUEUE_SHUTDOWN_TIMEOUT_SECS"
def endpointName : String := "OTEL_ENDPOINT"
def logLevelName : String := "LOG_LEVEL"

def invalid (name raw reason : String) : Failure :=
  .config ("invalid " ++ name ++ "=" ++ raw ++ ": " ++ reason)

def zeroCapacity : Failure := .config (capacityName ++ " must be greater than zero")

/-- A 64-bit numeral, if the variable is set. -/
def numeral (environment : Environment) (name : String) : Except Failure (Option Nat) :=
  match environment name with
  | none => .ok none
  | some raw =>
    match Text.readNumeral Text.wordLimit raw.toList with
    | .ok value => .ok (some value)
    | .error fault => .error (invalid name raw fault.message)

def policy (environment : Environment) : Except Failure (Option OverflowPolicy) :=
  match environment overflowName with
  | none => .ok none
  | some raw =>
    match OverflowPolicy.parse raw with
    | .ok policy => .ok (some policy)
    | .error reason => .error (invalid overflowName raw reason)

def ofEnvironment (environment : Environment) : Except Failure HostConfig := do
  let capacity := (← numeral environment capacityName).getD defaultCapacity
  if capacity = 0 then .error zeroCapacity
  else
    let overflow := (← policy environment).getD .wait
    let timeoutMs := ((← numeral environment timeoutName).map (· * 1000)).getD
      defaultShutdownTimeoutMs
    return {
      queue := ⟨capacity, overflow, timeoutMs⟩
      otelEndpoint := environment endpointName
      logLevel := (environment logLevelName).getD "info" }

end HostConfig

end WorkHost
