import Anastom.Persistence.SqliteOperations
import Anastom.Persistence.Fencing
import Anastom.Core.JsonText
import Anastom.Engine.MutationPayload
import Anastom.Persistence.Journal
import Anastom.Persistence.MemoryJournal
import Anastom.Persistence.SqliteJournal
import Anastom.Persistence.ExactlyOnce
import Anastom.Engine.Transitions
import Anastom.Engine.NodeInvariants
import Anastom.Engine.AttemptLifecycle
import Anastom.Engine.TerminalEvidence
import Anastom.Engine.StartEvidence
import Anastom.Core.KeyOrder
import Anastom.Engine.SnapshotState
import Anastom.Engine.SnapshotTail
import Anastom.Persistence.Integrity
import Anastom.Persistence.TamperEvidence
import Anastom.Transition.Program
import Anastom.Core.WorkflowDocument
import Anastom.Core.NormalizedWorkflow
import Anastom.Engine.Scheduling
import Anastom.Engine.WorkflowEngine
import Anastom.Engine.Batches
import Anastom.Engine.Graph
import Anastom.Engine.ActiveAttempt
import Anastom.Engine.AttemptOutcome
import Anastom.Engine.Advancement
import Anastom.Engine.EngineRuns
import Anastom.Engine.EngineAttempts
import Anastom.Engine.EngineProgress
import Anastom.Engine.EngineSessions
import Anastom.Data.ByteSize
import Anastom.Data.PosixPath
import Anastom.Engine.StatusAnnotations
import Anastom.Persistence.ArtifactIdentity
import Anastom.Persistence.ControlInbox
import Anastom.ExecutionHost.FrameCapacity
import Anastom.ExecutionHost.Framing
import Anastom.Adapters.Jsonl
import Anastom.Adapters.PublicEvents
import Anastom.Adapters.EventQueue
import Anastom.ExecutionHost.LogWeight
import Anastom.ExecutionHost.EventCursor
import Anastom.ExecutionHost.CommandRecord
import Anastom.Adapters.SkillDiscovery
import Anastom.Core.SemanticValidity
import Anastom.Adapters.UsageTotals
import Anastom.Engine.JsValueRoundTrip
import Anastom.Engine.EvidenceIntegrity
import Anastom.Engine.TimeoutEvidence
import Anastom.Persistence.DefinitionRecovery
import Anastom.ExecutionHost.LaunchBinding
import Anastom.Workspaces.FingerprintIdentity
import Anastom.PathPolicy.Publication
import Anastom.Persistence.SchemaDrift
import Anastom.Persistence.MigrationRuns
import Anastom.Engine.SessionRuns
import Anastom.Engine.BoundaryRuns
import Anastom.Engine.ObservedExecution
import Anastom.Persistence.SnapshotRecord
