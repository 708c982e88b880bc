import WorkHost.Main
import WorkHost.Proofs.Cron.Meaning
import WorkHost.Proofs.Cron.SkippedYears
import WorkHost.Proofs.Event.Gaps
import WorkHost.Proofs.Event.RoundTrip
import WorkHost.Proofs.Event.Tolerance
import WorkHost.Proofs.Host.Isolation
import WorkHost.Proofs.Host.StopRequest
import WorkHost.Proofs.Host.Shutdown
import WorkHost.Proofs.Queue.Bounded
import WorkHost.Proofs.Scheduler.FireRuns
import WorkHost.Proofs.Scope.Dependencies
import WorkHost.Proofs.Scope.Separation
import WorkHost.Proofs.Work.Disposal
import WorkHost.Queue.Exchange
import WorkHost.Scope.Workspace
import WorkHost.Simulation.Solo
import WorkHost.Simulation.Timetable
import WorkHost.Telemetry.Instrument
import WorkHost.Proofs.Work.Crash
import WorkHost.Proofs.Scope.Evaluation
import WorkHost.Proofs.Scope.Closure
import WorkHost.Proofs.Scope.Standing
import WorkHost.Proofs.Scope.Instances
import WorkHost.Proofs.Scope.Failures
import WorkHost.Proofs.Scope.Termination
import WorkHost.Proofs.Queue.Agreement
import WorkHost.Proofs.Command.Rehearsal
import WorkHost.Proofs.Telemetry.Dossier
import WorkHost.Proofs.Config.Settings
import WorkHost.Proofs.Config.RawEnvironment
import WorkHost.Proofs.Config.Limits
import WorkHost.Proofs.Config.JobTables
import WorkHost.Proofs.Telemetry.Installation
