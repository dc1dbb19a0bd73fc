import LintHub.Emitter.Script
import LintHub.Main
import LintHub.Rehearsal.Step
import LintHub.View.MarkerLayer
import LintHub.Proofs.Config.RoundTrip
import LintHub.Proofs.Engine.AfterEnd
import LintHub.Proofs.Engine.Origins
import LintHub.Proofs.Engine.Provenance
import LintHub.Proofs.Engine.Removal
import LintHub.Proofs.Engine.RunLocks
import LintHub.Proofs.Engine.Sessions
import LintHub.Proofs.Server.Buffers
import LintHub.Proofs.Server.Schedule
import LintHub.Proofs.Server.Timers
import LintHub.Proofs.Server.Told
import LintHub.Proofs.View.Markers
import LintHub.Proofs.View.Replay
import LintHub.Proofs.Json.Fields
import LintHub.Proofs.Config.Agreement
import LintHub.Proofs.Engine.Developments
import LintHub.Proofs.Engine.Tally
import LintHub.Proofs.Engine.Finishing
import LintHub.Proofs.Engine.Shutdown
import LintHub.Proofs.Server.Standing
import LintHub.Proofs.Server.Reloading
import LintHub.Proofs.Check.Course
import LintHub.Proofs.Check.Verdict
import LintHub.Proofs.Engine.Released
import LintHub.Proofs.Engine.LastEvents
import LintHub.Proofs.Engine.Closing
import LintHub.Proofs.Server.OpenSessions
import LintHub.Proofs.Engine.Unregister
import LintHub.Proofs.Engine.Reconfiguration
import LintHub.Proofs.Engine.Interchange
import LintHub.Proofs.Engine.Reporting
import LintHub.Proofs.Validation.FirstDefect
import LintHub.Proofs.Server.Reconciling
import LintHub.Proofs.Message.ReadBack
import LintHub.Proofs.Engine.DocumentEvents
import LintHub.Proofs.Check.Listing
import LintHub.Proofs.Emitter
