import AmazonSimilarSearch.Foundation.Bytes
import AmazonSimilarSearch.Foundation.Base64
import AmazonSimilarSearch.Foundation.Checked
import AmazonSimilarSearch.Foundation.Interaction
import AmazonSimilarSearch.Foundation.Contract
import AmazonSimilarSearch.Foundation.Runs
import AmazonSimilarSearch.Foundation.Attempts
import AmazonSimilarSearch.Foundation.Ceilings
import AmazonSimilarSearch.Foundation.Holdings
import AmazonSimilarSearch.Foundation.ContentAddressed
import AmazonSimilarSearch.Foundation.Digest
import AmazonSimilarSearch.Foundation.PosixFiles
import AmazonSimilarSearch.Foundation.Text
import AmazonSimilarSearch.Foundation.Lines
import AmazonSimilarSearch.Foundation.Shlex
import AmazonSimilarSearch.Foundation.Casefold
import AmazonSimilarSearch.Foundation.Words
import AmazonSimilarSearch.Foundation.Url
import AmazonSimilarSearch.Foundation.PyFloat
import AmazonSimilarSearch.Foundation.Json
import AmazonSimilarSearch.Foundation.JsonText
import AmazonSimilarSearch.Foundation.JsonOrdered
import AmazonSimilarSearch.Foundation.JsonRoundTrip
import AmazonSimilarSearch.Foundation.JsonCanonical
import AmazonSimilarSearch.Foundation.JsonSize
import AmazonSimilarSearch.Foundation.JsonBytes
import AmazonSimilarSearch.Foundation.JsonKeyOrder
import AmazonSimilarSearch.Foundation.Utf16
import AmazonSimilarSearch.Foundation.Framing
import AmazonSimilarSearch.PhaseProtocol.Phase
import AmazonSimilarSearch.PhaseProtocol.Documents
import AmazonSimilarSearch.PhaseProtocol.Artifacts
import AmazonSimilarSearch.PhaseProtocol.Models
import AmazonSimilarSearch.PhaseProtocol.Output
import AmazonSimilarSearch.PhaseProtocol.Chain
import AmazonSimilarSearch.PhaseProtocol.Ledger
import AmazonSimilarSearch.PhaseProtocol.Journal
import AmazonSimilarSearch.PhaseProtocol.LedgerSafety
import AmazonSimilarSearch.PhaseProtocol.Calls
import AmazonSimilarSearch.PhaseProtocol.CallSteps
import AmazonSimilarSearch.PhaseProtocol.CallSafety
import AmazonSimilarSearch.OuterWorkflow.Validate
import AmazonSimilarSearch.OuterWorkflow.Spec
import AmazonSimilarSearch.OuterWorkflow.Run
import AmazonSimilarSearch.OuterWorkflow.Safety
import AmazonSimilarSearch.OuterWorkflow.Accept
import AmazonSimilarSearch.OuterWorkflow.Honest
import AmazonSimilarSearch.OuterWorkflow.HonestRun
import AmazonSimilarSearch.OuterWorkflow.Refinement
import AmazonSimilarSearch.OuterWorkflow.Divergence
import AmazonSimilarSearch.OuterWorkflow.LateFailure
import AmazonSimilarSearch.Attestation.Statement
import AmazonSimilarSearch.Attestation.CanonicalValue
import AmazonSimilarSearch.Attestation.Verify
import AmazonSimilarSearch.Attestation.SignatureCodec
import AmazonSimilarSearch.Attestation.NonceLedger
import AmazonSimilarSearch.Attestation.ReservationRuns
import AmazonSimilarSearch.Attestation.History
import AmazonSimilarSearch.Outscraper.Client
import AmazonSimilarSearch.Outscraper.Polling
import AmazonSimilarSearch.Outscraper.Protocol
import AmazonSimilarSearch.Search.Normalization
import AmazonSimilarSearch.Search.Cache
import AmazonSimilarSearch.Search.Runs
import AmazonSimilarSearch.Search.NumberLimits
import AmazonSimilarSearch.Search.Deduplication
import AmazonSimilarSearch.Review.Models
import AmazonSimilarSearch.Review.Paths
import AmazonSimilarSearch.Review.Judge
import AmazonSimilarSearch.Review.JudgeContract
import AmazonSimilarSearch.Packet.SnapshotDiff
import AmazonSimilarSearch.Policy.Objects
import AmazonSimilarSearch.Policy.Worktree
import AmazonSimilarSearch.Policy.Inspect
import AmazonSimilarSearch.Policy.Contract
import AmazonSimilarSearch.Policy.OneFile
import AmazonSimilarSearch.Policy.BaseEncoding
import AmazonSimilarSearch.Policy.Restricted
import AmazonSimilarSearch.Policy.FoldedGlobs
import AmazonSimilarSearch.Policy.TreeGraph
import AmazonSimilarSearch.Packet.PathChecks
import AmazonSimilarSearch.Packet.DiffPaths
import AmazonSimilarSearch.Packet.Buildable
import AmazonSimilarSearch.Packet.SeparatorPath
import AmazonSimilarSearch.Packet.ReviewPacket
import AmazonSimilarSearch.Snapshot.RedTdd
import AmazonSimilarSearch.Snapshot.RedTddExact
import AmazonSimilarSearch.CodexAdapter.ResponsesRequest
import AmazonSimilarSearch.CodexAdapter.Framing
import AmazonSimilarSearch.Preflight.Protection
import AmazonSimilarSearch.Preflight.Soundness
import AmazonSimilarSearch.Broker.Commands
import AmazonSimilarSearch.Broker.RuntimeBinding
import AmazonSimilarSearch.Broker.BindingAgreement
import AmazonSimilarSearch.Broker.Inspect
import AmazonSimilarSearch.Broker.Lifecycle
import AmazonSimilarSearch.Broker.Execution
import AmazonSimilarSearch.Broker.SessionCommands
import AmazonSimilarSearch.Broker.LifecycleContract
import AmazonSimilarSearch.Broker.LifecycleRuns
import AmazonSimilarSearch.Broker.LifecycleSafety
import AmazonSimilarSearch.Broker.LifecycleExact
import AmazonSimilarSearch.Broker.LifecycleHonest
import AmazonSimilarSearch.BrokerLedger.Table
import AmazonSimilarSearch.BrokerLedger.Pricing
import AmazonSimilarSearch.BrokerLedger.Evidence
import AmazonSimilarSearch.BrokerLedger.Rebuild
import AmazonSimilarSearch.BrokerLedger.Invariant
import AmazonSimilarSearch.BrokerLedger.Reserve
import AmazonSimilarSearch.BrokerLedger.BudgetSafety
import AmazonSimilarSearch.BrokerLedger.FinalLedger
import AmazonSimilarSearch.BrokerLedger.FinalLedgerExact
import AmazonSimilarSearch.BrokerLedger.Outer
import AmazonSimilarSearch.BrokerLedger.Decode
import AmazonSimilarSearch.BrokerLedger.Agreement
import AmazonSimilarSearch.BrokerLedger.FrozenAgreement
import AmazonSimilarSearch.BrokerLedger.ReservationAgreement
import AmazonSimilarSearch.Foundation.JsonLength
import AmazonSimilarSearch.Foundation.SmallFloats
import AmazonSimilarSearch.OuterWorkflow.Envelope
import AmazonSimilarSearch.EgressGateway.Gateway
import AmazonSimilarSearch.EgressGateway.Contract
import AmazonSimilarSearch.EgressGateway.Pipe
import AmazonSimilarSearch.EgressGateway.ServeOnce
import AmazonSimilarSearch.EgressSession.Commands
import AmazonSimilarSearch.EgressSession.Inspect
import AmazonSimilarSearch.EgressSession.Lifecycle
import AmazonSimilarSearch.EgressSession.Contract
import AmazonSimilarSearch.EgressSession.CommandLines
import AmazonSimilarSearch.EgressSession.Leaving
import AmazonSimilarSearch.EgressSession.Cleanup
import AmazonSimilarSearch.EgressSession.WithStatement
import AmazonSimilarSearch.EgressSession.OversizedNumber
import AmazonSimilarSearch.Foundation.Validation
import AmazonSimilarSearch.Release.Task
import AmazonSimilarSearch.Release.Accepted
import AmazonSimilarSearch.Release.GlobRegex
import AmazonSimilarSearch.Release.Validate
import AmazonSimilarSearch.Release.Usable
import AmazonSimilarSearch.JsonEditor.IndentedJson
import AmazonSimilarSearch.Foundation.RaisingStep
import AmazonSimilarSearch.JsonEditor.WriteJson
import AmazonSimilarSearch.Foundation.Rounding
import AmazonSimilarSearch.Search.PriceScore
import AmazonSimilarSearch.Search.TextProcessing
import AmazonSimilarSearch.Search.ProductScoring
import AmazonSimilarSearch.Search.RankedScores
import AmazonSimilarSearch.Foundation.JsonTokens
import AmazonSimilarSearch.Foundation.JsonGrammar
import AmazonSimilarSearch.Foundation.JsonLineBreaks
import AmazonSimilarSearch.Search.ExtractJson
import AmazonSimilarSearch.Search.AttributeExtraction
import AmazonSimilarSearch.Foundation.JsonFields
import AmazonSimilarSearch.Search.AttributeNormalForm
import AmazonSimilarSearch.Deployment.Evidence
import AmazonSimilarSearch.Deployment.SmokeTest
import AmazonSimilarSearch.Deployment.Containment
import AmazonSimilarSearch.Deployment.Acceptance
import AmazonSimilarSearch.Deployment.Images
import AmazonSimilarSearch.Deployment.Ready
import AmazonSimilarSearch.Foundation.JoinedFields
import AmazonSimilarSearch.Preflight.ProtectedFile
import AmazonSimilarSearch.Snapshot.Verify
import AmazonSimilarSearch.Snapshot.Walked
import AmazonSimilarSearch.Snapshot.ManifestEntries
import AmazonSimilarSearch.Snapshot.VerifyExact
import AmazonSimilarSearch.Snapshot.Binding
import AmazonSimilarSearch.Snapshot.Stability
import AmazonSimilarSearch.Snapshot.CommitTree
