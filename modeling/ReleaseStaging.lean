import ReleaseStaging.Main
import ReleaseStaging.Proofs.Client.Course
import ReleaseStaging.Simulation.Documents
import ReleaseStaging.Simulation.Rehearsal
import ReleaseStaging.Text.Scan
import ReleaseStaging.Proofs.Query.Canonical
import ReleaseStaging.Proofs.Query.Order
import ReleaseStaging.Proofs.Query.Meaning
import ReleaseStaging.Proofs.Xml.Markup
import ReleaseStaging.Proofs.Client.RequestBody
import ReleaseStaging.Proofs.Query.Plain
import ReleaseStaging.Proofs.Client.Endpoints
import ReleaseStaging.Proofs.Command.Closing
import ReleaseStaging.Proofs.Command.Interruption
import ReleaseStaging.Proofs.Command.Commitment
import ReleaseStaging.Proofs.Client.RequestContent
import ReleaseStaging.Proofs.Run.Confinement
import ReleaseStaging.Proofs.Client.Confinement
import ReleaseStaging.Proofs.Client.Session
import ReleaseStaging.Proofs.Client.Discovery
import ReleaseStaging.Proofs.Command.Selection
import ReleaseStaging.Proofs.CommandLine.Selectors
import ReleaseStaging.Proofs.Simulation.Turns
import ReleaseStaging.Proofs.Report.Formatting
import ReleaseStaging.Proofs.Simulation.Documents
import ReleaseStaging.Proofs.Cancellation.Interleaving
import ReleaseStaging.Proofs.Configuration.Variants
import ReleaseStaging.Proofs.Command.Output
import ReleaseStaging.Proofs.Client.Paths
import ReleaseStaging.Proofs.Activity.Log
import ReleaseStaging.Proofs.Activity.Outcome
import ReleaseStaging.Proofs.Capability.Version
import ReleaseStaging.Proofs.Client.Waiting
import ReleaseStaging.Proofs.Client.Listing
import ReleaseStaging.Proofs.Text.Number
import ReleaseStaging.Proofs.Client.Permissions
import ReleaseStaging.Proofs.Client.Separation
import ReleaseStaging.Proofs.Query.Joining
import ReleaseStaging.Proofs.Activity.Times
import ReleaseStaging.Proofs.Text.Base64
import ReleaseStaging.Proofs.Configuration.Credentials
import ReleaseStaging.Proofs.Calendar.Zones
import ReleaseStaging.Proofs.Client.Counting
