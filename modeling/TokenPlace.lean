import TokenPlace.StateStore.Bounds
import TokenPlace.StateStore.Outcomes
import TokenPlace.StateStore.Visibility
import TokenPlace.Relay.Mailboxes
import TokenPlace.Relay.Exclusivity
import TokenPlace.Relay.Termination
import TokenPlace.Relay.Completion
import TokenPlace.Relay.CancelProof
import TokenPlace.Relay.Isolation
import TokenPlace.Node.Submission
import TokenPlace.Node.Progress
import TokenPlace.Node.Admission
import TokenPlace.Node.Unregistration
import TokenPlace.Worker.Barrier
import TokenPlace.Worker.Recovery
import TokenPlace.Desktop.StopResult
import TokenPlace.Desktop.Verdict
import TokenPlace.Desktop.Numbering
import TokenPlace.Api.Enforcement
import TokenPlace.Model.KvBounds
import TokenPlace.Model.KvDiagnostic
import TokenPlace.Node.RetryBounds
import TokenPlace.Model.GgufReader
import TokenPlace.Node.Redaction
import TokenPlace.StateStore.Teardown
import TokenPlace.StateStore.Fairness
import TokenPlace.StateStore.Retries
import TokenPlace.StateStore.Deferrals
import TokenPlace.Relay.Turns
import TokenPlace.Relay.Unregister
import TokenPlace.Relay.Streams
import TokenPlace.Desktop.CleanupEvidence
import TokenPlace.Node.LateRegistration
import TokenPlace.Desktop.SidecarIsolation
import TokenPlace.Desktop.RelayHandoff
import TokenPlace.Worker.ProxyRelease
import TokenPlace.Worker.RpcTables
import TokenPlace.Model.StreamCompletion
import TokenPlace.Worker.Cascade
import TokenPlace.Worker.FilterAgreement
import TokenPlace.Model.Artifact
import TokenPlace.Desktop.StopLatch
import TokenPlace.Desktop.DispatchedWork
import TokenPlace.Api.DistributedProvider
import TokenPlace.Api.ChatValidation
import TokenPlace.Crypto.StreamRecovery
import TokenPlace.Crypto.StreamAgreement
import TokenPlace.Browser.BoundedFailover
import TokenPlace.Browser.CodeBlocks
import TokenPlace.Browser.RequestLifecycle
import TokenPlace.Desktop.DiagnosticWords
import TokenPlace.Desktop.ProbeFraming
import TokenPlace.Desktop.InstallDetail
import TokenPlace.Vision.JpegHeader
import TokenPlace.Crypto.Padding
import TokenPlace.Desktop.Provenance
