import WorkHost.Command.Demo
import WorkHost.Command.Help
import WorkHost.Config.EnvFile
import WorkHost.Config.Jobs
import WorkHost.Cron.Job
import WorkHost.Event.Codec
import WorkHost.Telemetry.Setup

/-!
Contract: the whole program, from its arguments and surroundings to what it prints.

The file of environment variables comes first, then the arguments, the settings and
telemetry, and only then the command itself. A failure is printed and gives the exit
code 1, a misuse of the arguments gives 2. Variables that cannot be set, filters that
cannot be read and settings that no queue or bus can be made with give 101.
-/

namespace WorkHost

inductive OutputLine where
  | event (event : Event)
  | text (line : String)
deriving DecidableEq, Repr

def OutputLine.render : OutputLine → String
  | .event emitted => emitted.toJson.render
  | .text line => line

/-- What the printer of a demonstration prints of the events that it hears. -/
def DemoOptions.shown (options : DemoOptions) (events : List Event) : List OutputLine :=
  if options.json then events.map .event
  else [.text (events.foldl DemoTally.add ⟨0, 0⟩).summary]

/-- What a run of the program shows. A service shows what it prints before it waits. -/
structure ProgramResult where
  code : Nat
  output : List OutputLine
  /-- What is printed on the error stream. -/
  complaint : Option String
deriving DecidableEq, Repr

/-- What surrounds a run of the program. -/
structure ProgramContext where
  environment : Environment
  /-- The text of the file of environment variables, if there is one. -/
  envFile : Option String
  /-- What reading a file gives. -/
  read : String → JobsFile.Reading
  /-- How a malformed jobs file is put into words. -/
  malformed : String
  identities : DemoIdentities
  clock : Calendar.Instant

namespace ProgramResult

def succeeded (output : List OutputLine) : ProgramResult := ⟨0, output, none⟩

def failed (failure : Failure) : ProgramResult :=
  ⟨1, [], some ("Error: " ++ failure.message)⟩

def misused : ProgramResult := ⟨2, [], none⟩

/-- A panic ends the program, after some output or none. -/
def crashed (output : List OutputLine) : ProgramResult := ⟨101, output, none⟩

end ProgramResult

namespace ProgramContext

/-- The environment with the variables of the file, unless one cannot be set. -/
def fullEnvironment? (context : ProgramContext) : Option Environment :=
  match context.envFile with
  | none => some context.environment
  | some text => EnvFile.load? context.environment text

/-- The variable that holds the filter of log lines. -/
def filterName : String := "RUST_LOG"

def serviceName : String := "sampleapp-bg"

/-- Makes settings and telemetry, which every command needs, and goes on with them. -/
def prepared (environment : Environment) (command : HostConfig → ProgramResult) :
    ProgramResult :=
  match HostConfig.ofEnvironment environment with
  | .error failure => .failed failure
  | .ok config =>
    let telemetry : TelemetryConfig := ⟨config.otelEndpoint, serviceName, config.logLevel⟩
    match TelemetryState.fresh.init? (environment filterName) telemetry with
    | none => .crashed []
    | some (.error failure, _) => .failed failure
    | some (.ok _, _) => command config

def loadJobs (context : ProgramContext) (path : Option String) : Except Failure JobsFile :=
  match path with
  | none => .ok .empty
  | some path => JobsFile.load path (context.read path) context.malformed

/-- The jobs that a service schedules. -/
def schedule (file : JobsFile) : Except Failure (List Cron.Job) :=
  file.enabled.mapM fun settings => Cron.Job.parse settings.name settings.schedule

/-- The events that a host emits before it has anything to do. -/
def firstEvents (config : QueueConfig) (clock : Calendar.Instant) : List Event :=
  let host : Host DemoItem := .create config
  let reports := (host.step 0).elim [] HostStride.reports
  let bus := reports.foldl (DemoRun.emit clock 0) (EventBus.create EventBus.defaultCapacity)
  bus.emitted.toList

/-- A service shows its first events and then waits until it is interrupted. -/
def serve (context : ProgramContext) (config : HostConfig) (options : ServeOptions) :
    ProgramResult :=
  match context.loadJobs options.jobs with
  | .error failure => .failed failure
  | .ok file =>
    if Channel.placeLimit < config.queue.capacity then .crashed []
    else
      match schedule file with
      | .error failure => .failed failure
      | .ok _ =>
        let events := firstEvents config.queue context.clock
        .succeeded (if options.json then events.map .event else [])

/-- The printer is there before the queue. Where no queue can be made it has heard of no event
and prints what there is to print of none. -/
def demo (context : ProgramContext) (config : HostConfig) (options : DemoOptions) :
    ProgramResult :=
  if EventBus.capacityLimit < options.busCapacity then .crashed []
  else if Channel.placeLimit < config.queue.capacity then .crashed (options.shown [])
  else
    match runDemo config.queue options context.identities context.clock with
    | .error failure => .failed failure
    | .ok events => .succeeded (options.shown events)

def run (context : ProgramContext) (arguments : List String) : ProgramResult :=
  match context.fullEnvironment? with
  | none => .crashed []
  | some environment =>
    match Invocation.ofArguments arguments with
    | .misuse => .misused
    | .help topic => .succeeded (topic.lines.map .text)
    | .serve options => prepared environment (context.serve · options)
    | .demo options => prepared environment (context.demo · options)

end ProgramContext

end WorkHost
