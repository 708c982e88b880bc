import WorkHost.Failure
import WorkHost.Telemetry.Endpoint
import WorkHost.Telemetry.Filter

/-!
Contract: setting up telemetry for a process.

A process records log lines through one subscriber, which is installed at most once.
An endpoint for export has to be usable before the subscriber is touched.
-/

namespace WorkHost

structure TelemetryConfig where
  /-- Where telemetry is exported to, if it is. -/
  endpoint : Option String
  serviceName : String
  /-- The filter used when the environment has none. -/
  logLevel : String
deriving DecidableEq, Repr

/-- What a successful setup gives. -/
structure TelemetryGuard where
  isExporting : Bool
deriving DecidableEq, Repr

/-- The subscriber of a process. -/
structure TelemetryState where
  installed : Option LogFilter
deriving DecidableEq, Repr

namespace TelemetryState

def fresh : TelemetryState := ⟨none⟩

def exporterFailed (endpoint : String) (fault : EndpointFault) : Failure :=
  .other ("failed to create OTLP span exporter: invalid URI " ++ endpoint ++ ". Reason "
    ++ fault.message)

def alreadyInstalled : Failure :=
  .other ("failed to init tracing subscriber: "
    ++ "a global default trace dispatcher has already been set")

/-- What is wrong with an endpoint. An empty one stands for the usual collector. -/
def endpointFault? (endpoint : String) : Option EndpointFault :=
  if endpoint.isEmpty then none else Endpoint.fault? endpoint

/-- The filter of the environment if it is set and well formed, else the configured one.
There is none if a directive is torn. -/
def chooseFilter? (environment : Option String) (config : TelemetryConfig) :
    Option LogFilter :=
  match environment.map LogFilter.parse with
  | some (.ok filter) => some filter
  | some (.error .torn) => none
  | some (.error .malformed) | none => LogFilter.parseLenient? config.logLevel

/-- Installs a filter, unless there is one already or the endpoint is unusable. -/
def install (state : TelemetryState) (config : TelemetryConfig) (filter : LogFilter) :
    Except Failure TelemetryGuard × TelemetryState :=
  match config.endpoint.bind fun endpoint => (endpointFault? endpoint).map (endpoint, ·) with
  | some (endpoint, fault) => (.error (exporterFailed endpoint fault), state)
  | none =>
    match state.installed with
    | some _ => (.error alreadyInstalled, state)
    | none => (.ok ⟨config.endpoint.isSome⟩, ⟨some filter⟩)

/-- Sets up telemetry, given the filter that the environment names. A torn directive
ends the whole program, for which nothing stands. -/
def init? (state : TelemetryState) (environment : Option String) (config : TelemetryConfig) :
    Option (Except Failure TelemetryGuard × TelemetryState) :=
  (chooseFilter? environment config).map (state.install config)

/-- Sets up telemetry several times in one process. -/
def initAll? (state : TelemetryState) (environment : Option String) :
    List TelemetryConfig → Option (List (Except Failure TelemetryGuard) × TelemetryState)
  | [] => some ([], state)
  | config :: rest => do
    let (result, state) ← state.init? environment config
    let (results, state) ← initAll? state environment rest
    return (result :: results, state)

/-- Whether a log line without fields is recorded in the process. -/
def enables (state : TelemetryState) (target : String) (level : Level) : Bool :=
  state.installed.any (·.enables target level)

/-- Whether the spans of a site are recorded in the process. -/
def enablesSpan (state : TelemetryState) (site : SpanSite) : Bool :=
  state.installed.any (·.enablesSpan site)

end TelemetryState

namespace SpanSite

/-- The spans of executions. -/
def work : SpanSite where
  target := "sampleapp_bg::telemetry::work"
  name := "work.execute"
  fields := ["work.id", "work.kind", "work.dependency", "work.outcome"]
  level := .info

/-- The spans of scheduled jobs. -/
def job : SpanSite where
  target := "sampleapp_bg::telemetry::work"
  name := "scheduler.fire"
  fields := ["job.name"]
  level := .info

end SpanSite

end WorkHost
