import MeshControl.Cancellation
import MeshControl.Harness.Callers
import MeshControl.Harness.ProcessWide
import MeshControl.Harness.ScriptedServer
import MeshControl.Harness.TestControlPlane
import MeshControl.Main
import MeshControl.Proofs.Harness.Closing
import MeshControl.Proofs.Harness.Dialing
import MeshControl.Proofs.Harness.FailedStart
import MeshControl.Proofs.Harness.Lifecycle
import MeshControl.Proofs.Server.FirstFault
import MeshControl.Proofs.Server.Starts
import MeshControl.Proofs.Sync.Passes
import MeshControl.Proofs.Sync.Readiness
import MeshControl.Proofs.Sync.Shutdown
import MeshControl.Server.Life
import MeshControl.Sync
import MeshControl.Proofs.Harness.FirstCaller
import MeshControl.Proofs.Cancellation.Descent
import MeshControl.Proofs.Cancellation.Firing
import MeshControl.Proofs.Net.Grammar
import MeshControl.Proofs.Text.Trimming
import MeshControl.Proofs.Server.Acceptance
import MeshControl.Proofs.Harness.FirstUse
import MeshControl.Proofs.Harness.LoneHarness
import MeshControl.Proofs.Harness.BindAddresses
import MeshControl.Proofs.Json.Reader
import MeshControl.Proofs.Sync.Draining
import MeshControl.Proofs.Json.RoundTrip
import MeshControl.Proofs.Pages.Faithful
import MeshControl.Proofs.Harness.Republishing
import MeshControl.Proofs.Pages.Surface
import MeshControl.Proofs.FileTree.Keeping
import MeshControl.Proofs.Harness.Startable
import MeshControl.Proofs.Web.Redirection
import MeshControl.Proofs.Harness.Probing
import MeshControl.Proofs.Harness.AddressGrammar
import MeshControl.Proofs.Net.Spelling
import MeshControl.Proofs.Harness.Canonical
import MeshControl.Proofs.Harness.SetUpFaults
import MeshControl.Proofs.FileTree.Counting
import MeshControl.Proofs.Config.Loading
import MeshControl.Proofs.Config.RegistryList
import MeshControl.Proofs.Registry.Aggregation
import MeshControl.Proofs.Harness.Questions
import MeshControl.Proofs.Messages.Offenders
import MeshControl.Proofs.Harness.PollerLimits
