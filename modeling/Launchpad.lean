import Launchpad.Config.Builder
import Launchpad.HealthProbe
import Launchpad.Host.Taskkill
import Launchpad.Host.Unsupported
import Launchpad.Json.Text
import Launchpad.Logging
import Launchpad.Posix.Trial
import Launchpad.Scripted.ForegroundTrial
import Launchpad.Scripted.Host
import Launchpad.Scripted.SupervisorCall
import Launchpad.Proofs.Supervisor.Looks
import Launchpad.Proofs.Supervisor.Termination
import Launchpad.Proofs.Session.Steps
import Launchpad.Proofs.Session.Interleaving
import Launchpad.Proofs.Session.Accounting
import Launchpad.Proofs.Session.Stopping
import Launchpad.Proofs.Session.Course
import Launchpad.Proofs.Session.LaunchOrder
import Launchpad.Proofs.Session.RollBack
import Launchpad.Proofs.Supervisor.Survivors
import Launchpad.Proofs.Session.Phases
import Launchpad.Proofs.Supervisor.Operations
import Launchpad.Proofs.Supervisor.Offspring
import Launchpad.Proofs.Session.Causes
import Launchpad.Proofs.Session.Closing
import Launchpad.Proofs.Session.StartAndStop
import Launchpad.Proofs.Session.Foreground
import Launchpad.Proofs.Json.Record
import Launchpad.Proofs.Json.Language
import Launchpad.Proofs.Config.Grammar
import Launchpad.Proofs.Config.RoundTrip
import Launchpad.Proofs.Supervisor.Passes
import Launchpad.Proofs.Session.Deployment
import Launchpad.Proofs.Session.Reports
import Launchpad.Proofs.ProcessTree
import Launchpad.Proofs.Supervisor.Samples
import Launchpad.Proofs.Supervisor.Budget
import Launchpad.Proofs.Supervisor.Turns
import Launchpad.Proofs.Session.ConfigLocation
import Launchpad.Proofs.Supervisor.Replacement
import Launchpad.Proofs.Config.Builder
import Launchpad.Proofs.Java
import Launchpad.Proofs.Session.Commands
import Launchpad.Proofs.Supervisor.StaleHandles
import Launchpad.Proofs.Supervisor.Statuses
import Launchpad.Proofs.Supervisor.Vouching
import Launchpad.Proofs.Supervisor.SweepOrder
import Launchpad.Proofs.Status
import Launchpad.Proofs.Supervisor.ExitWait
import Launchpad.Proofs.Text.Lowercase
import Launchpad.Proofs.Host.Taskkill
