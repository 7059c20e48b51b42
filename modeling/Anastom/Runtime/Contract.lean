import Anastom.Core.Workflow

/-! The runtime contract's records, their JSON forms, and the schema checks that
persisted evidence passes. -/
namespace Anastom

inductive WorkspaceMode where
  | memory | readonly | isolated
  deriving DecidableEq, Repr

/-- A memory, source-readonly, or owned isolated Git workspace. -/
inductive WorkspaceRef where
  | memory (id : String)
  | readonly (id repoRoot path baseCommit : String)
  | isolated (id repoRoot path baseCommit branch : String)
  deriving DecidableEq, Repr

structure ArtifactProducer where
  runId : String
  nodeId : String
  attempt : Nat
  deriving DecidableEq, Repr

structure ArtifactRef where
  id : String
  type : String
  mediaType : String
  uri : String
  digest : String
  producer : ArtifactProducer
  deriving DecidableEq, Repr

structure WorkspaceOwnership where
  repositoryRoot : String
  repositoryCommonDirectory : String
  workspacePath : String
  workspaceGitDirectory : String
  branch : String
  manifestDigest : String
  registrationDigest : String
  deriving DecidableEq, Repr

/-- Complete content and Git ownership evidence captured before authorization. -/
structure WorkspaceCheckpoint where
  workspaceId : String
  baseCommit : String
  headCommit : String
  diffDigest : String
  changedFiles : List String
  ignoredDigest : String
  ignoredEntryCount : Nat
  ignoredByteCount : Nat
  ownership : WorkspaceOwnership
  diffArtifactId : Option String
  deriving DecidableEq, Repr

inductive WorkspaceDifference where
  | version | workspaceId | baseCommit | headCommit | diffDigest | changedFiles
  | ignoredContent | repository | workspacePath | branch | ownershipManifest
  | worktreeRegistration
  deriving DecidableEq, Repr

inductive StructuredOutput where
  | native | prompted | none
  deriving DecidableEq, Repr

inductive UsageReporting where
  | tokens | cost | partialTokens | none
  deriving DecidableEq, Repr

structure RuntimeCapabilities where
  streaming : Bool
  cancellation : Bool
  resumableSession : Bool
  nativeSubagents : Bool
  mcp : Bool
  lsp : Bool
  debugger : Bool
  browser : Bool
  structuredOutput : StructuredOutput
  usageReporting : UsageReporting
  sandboxing : List String
  workspaceModes : Option (List WorkspaceMode)
  deriving DecidableEq, Repr

/-- Selected-worker requirements and capability evidence. -/
structure RuntimeNegotiation where
  runtimeId : String
  workspaceMode : MutationMode
  capabilities : RuntimeCapabilities
  deriving DecidableEq, Repr

/-- A credential-free runtime selection that can reconstruct an adapter. -/
structure RuntimeDescriptor where
  runtimeId : String
  configurationVersion : String
  configuration : List (String × JsonValue)
  deriving DecidableEq, Repr

inductive ResultStatus where
  | succeeded | failed | blocked | cancelled
  deriving DecidableEq, Repr

inductive MetadataSource where
  | configured | reported
  deriving DecidableEq, Repr

structure RuntimeMetadata where
  provider : String
  model : String
  source : Option MetadataSource
  runtimeVersion : Option String
  deriving DecidableEq, Repr

inductive UsageCoverage where
  | complete | partialCoverage
  deriving DecidableEq, Repr

structure RuntimeUsage where
  coverage : UsageCoverage
  inputTokens : Option Nat
  outputTokens : Option Nat
  cacheReadTokens : Option Nat
  cacheWriteTokens : Option Nat
  reasoningTokens : Option Nat
  totalTokens : Option Nat
  deriving DecidableEq, Repr

inductive RuntimeEvent where
  | started
  | log (message : String) (droppedLogs : Option Nat)
  | metadata (value : RuntimeMetadata)
  | usage (value : RuntimeUsage)
  | completed (status : ResultStatus)
  deriving DecidableEq, Repr

inductive FailureCategory where
  | runtimeUnavailable | modelProvider | tool | schemaViolation | verification
  | budgetExhausted | policyViolation | workspaceConflict | humanRejection | unknownInternal
  deriving DecidableEq, Repr

structure ExecutionFailure where
  category : FailureCategory
  message : String
  deriving DecidableEq, Repr

/-- A normalized terminal attempt result. -/
inductive ExecutionResult where
  | succeeded (output : JsonValue)
  | failed (failure : ExecutionFailure)
  | blocked (reason : String)
  | cancelled (reason : String)
  deriving DecidableEq, Repr

inductive ExecutionKind where
  | runtime | command
  deriving DecidableEq, Repr

/-- Durable identity committed before an execution supervisor is prepared. -/
structure ExecutionPlanRef where
  runId : String
  executionId : String
  kind : ExecutionKind
  generation : Nat
  planDigest : String
  deriving DecidableEq, Repr

/-- Proof that a supervisor published the manifest for an execution plan. -/
structure PersistedExecutionRef extends ExecutionPlanRef where
  manifestDigest : String
  deriving DecidableEq, Repr

/-- Bounded public evidence of one verifier command. -/
structure CommandReport where
  passed : Bool
  exitCode : Option Int
  signal : Option String
  durationMs : JsonNumber
  stdoutBytes : Nat
  stderrBytes : Nat
  stdoutTruncated : Bool
  stderrTruncated : Bool
  deriving DecidableEq, Repr

def WorkspaceMode.text : WorkspaceMode → String
  | .memory => "memory"
  | .readonly => "readonly"
  | .isolated => "isolated"

def WorkspaceDifference.text : WorkspaceDifference → String
  | .version => "version"
  | .workspaceId => "workspace-id"
  | .baseCommit => "base-commit"
  | .headCommit => "head-commit"
  | .diffDigest => "diff-digest"
  | .changedFiles => "changed-files"
  | .ignoredContent => "ignored-content"
  | .repository => "repository"
  | .workspacePath => "workspace-path"
  | .branch => "branch"
  | .ownershipManifest => "ownership-manifest"
  | .worktreeRegistration => "worktree-registration"

def StructuredOutput.text : StructuredOutput → String
  | .native => "native"
  | .prompted => "prompted"
  | .none => "none"

def UsageReporting.text : UsageReporting → String
  | .tokens => "tokens"
  | .cost => "cost"
  | .partialTokens => "partial"
  | .none => "none"

def ResultStatus.text : ResultStatus → String
  | .succeeded => "succeeded"
  | .failed => "failed"
  | .blocked => "blocked"
  | .cancelled => "cancelled"

def MetadataSource.text : MetadataSource → String
  | .configured => "configured"
  | .reported => "reported"

def UsageCoverage.text : UsageCoverage → String
  | .complete => "complete"
  | .partialCoverage => "partial"

def FailureCategory.text : FailureCategory → String
  | .runtimeUnavailable => "runtime-unavailable"
  | .modelProvider => "model-provider"
  | .tool => "tool"
  | .schemaViolation => "schema-violation"
  | .verification => "verification"
  | .budgetExhausted => "budget-exhausted"
  | .policyViolation => "policy-violation"
  | .workspaceConflict => "workspace-conflict"
  | .humanRejection => "human-rejection"
  | .unknownInternal => "unknown-internal"

def ExecutionKind.text : ExecutionKind → String
  | .runtime => "runtime"
  | .command => "command"

def WorkspaceRef.id : WorkspaceRef → String
  | .memory id | .readonly id .. | .isolated id .. => id

def WorkspaceRef.mode : WorkspaceRef → WorkspaceMode
  | .memory _ => .memory
  | .readonly .. => .readonly
  | .isolated .. => .isolated

/-- The mode of a filesystem workspace, as runtime requirements name it. -/
def WorkspaceRef.mutation? : WorkspaceRef → Option MutationMode
  | .memory _ => none
  | .readonly .. => some .readonly
  | .isolated .. => some .isolated

def ExecutionResult.status : ExecutionResult → ResultStatus
  | .succeeded _ => .succeeded
  | .failed _ => .failed
  | .blocked _ => .blocked
  | .cancelled _ => .cancelled

open JsonValue

def WorkspaceRef.toJson : WorkspaceRef → JsonValue
  | .memory id => .object [("id", .string id), ("mode", .string "memory")]
  | .readonly id repoRoot path baseCommit =>
    .object [("id", .string id), ("mode", .string "readonly"), ("repoRoot", .string repoRoot),
      ("path", .string path), ("baseCommit", .string baseCommit)]
  | .isolated id repoRoot path baseCommit branch =>
    .object [("id", .string id), ("mode", .string "isolated"), ("repoRoot", .string repoRoot),
      ("path", .string path), ("baseCommit", .string baseCommit), ("branch", .string branch)]

def ArtifactProducer.toJson (producer : ArtifactProducer) : JsonValue :=
  .object [("runId", .string producer.runId), ("nodeId", .string producer.nodeId),
    ("attempt", nat producer.attempt)]

def ArtifactRef.toJson (artifact : ArtifactRef) : JsonValue :=
  .object [("id", .string artifact.id), ("type", .string artifact.type),
    ("mediaType", .string artifact.mediaType), ("uri", .string artifact.uri),
    ("digest", .string artifact.digest), ("producer", artifact.producer.toJson)]

def WorkspaceOwnership.toJson (ownership : WorkspaceOwnership) : JsonValue :=
  .object [("repositoryRoot", .string ownership.repositoryRoot),
    ("repositoryCommonDirectory", .string ownership.repositoryCommonDirectory),
    ("workspacePath", .string ownership.workspacePath),
    ("workspaceGitDirectory", .string ownership.workspaceGitDirectory),
    ("branch", .string ownership.branch), ("manifestDigest", .string ownership.manifestDigest),
    ("registrationDigest", .string ownership.registrationDigest)]

def WorkspaceCheckpoint.toJson (checkpoint : WorkspaceCheckpoint) : JsonValue :=
  .object ([("version", .string "anastom.dev/workspace-checkpoint/v1alpha1"),
      ("workspaceId", .string checkpoint.workspaceId),
      ("baseCommit", .string checkpoint.baseCommit),
      ("headCommit", .string checkpoint.headCommit),
      ("diffDigest", .string checkpoint.diffDigest),
      ("changedFiles", strings checkpoint.changedFiles),
      ("ignoredDigest", .string checkpoint.ignoredDigest),
      ("ignoredEntryCount", nat checkpoint.ignoredEntryCount),
      ("ignoredByteCount", nat checkpoint.ignoredByteCount),
      ("ownership", checkpoint.ownership.toJson)] ++
    field "diffArtifactId" .string checkpoint.diffArtifactId)

def RuntimeCapabilities.toJson (capabilities : RuntimeCapabilities) : JsonValue :=
  .object ([("streaming", .bool capabilities.streaming),
      ("cancellation", .bool capabilities.cancellation),
      ("resumableSession", .bool capabilities.resumableSession),
      ("nativeSubagents", .bool capabilities.nativeSubagents), ("mcp", .bool capabilities.mcp),
      ("lsp", .bool capabilities.lsp), ("debugger", .bool capabilities.debugger),
      ("browser", .bool capabilities.browser),
      ("structuredOutput", .string capabilities.structuredOutput.text),
      ("usageReporting", .string capabilities.usageReporting.text),
      ("sandboxing", strings capabilities.sandboxing)] ++
    field "workspaceModes" (fun modes => strings (modes.map WorkspaceMode.text))
      capabilities.workspaceModes)

def RuntimeNegotiation.toJson (negotiation : RuntimeNegotiation) : JsonValue :=
  .object [("version", .string "anastom.dev/runtime-negotiation/v1alpha1"),
    ("runtimeId", .string negotiation.runtimeId),
    ("requirements", .object [("workspaceMode", .string negotiation.workspaceMode.text),
      ("cancellation", .bool true), ("structuredOutput", .string "validated")]),
    ("capabilities", negotiation.capabilities.toJson)]

def RuntimeDescriptor.toJson (descriptor : RuntimeDescriptor) : JsonValue :=
  .object [("version", .string "anastom.dev/runtime-descriptor/v1alpha1"),
    ("runtimeId", .string descriptor.runtimeId),
    ("configurationVersion", .string descriptor.configurationVersion),
    ("configuration", .object descriptor.configuration)]

def RuntimeMetadata.toJson (metadata : RuntimeMetadata) : JsonValue :=
  .object ([("type", .string "metadata"), ("provider", .string metadata.provider),
      ("model", .string metadata.model)] ++
    field "source" (.string ·.text) metadata.source ++
    field "runtimeVersion" .string metadata.runtimeVersion)

def RuntimeUsage.toJson (usage : RuntimeUsage) : JsonValue :=
  .object ([("type", .string "usage"), ("scope", .string "attempt"),
      ("coverage", .string usage.coverage.text)] ++
    field "inputTokens" nat usage.inputTokens ++ field "outputTokens" nat usage.outputTokens ++
    field "cacheReadTokens" nat usage.cacheReadTokens ++
    field "cacheWriteTokens" nat usage.cacheWriteTokens ++
    field "reasoningTokens" nat usage.reasoningTokens ++
    field "totalTokens" nat usage.totalTokens)

def RuntimeEvent.toJson : RuntimeEvent → JsonValue
  | .started => .object [("type", .string "started")]
  | .log message droppedLogs =>
    .object ([("type", .string "log"), ("message", .string message)] ++
      field "droppedLogs" nat droppedLogs)
  | .metadata value => value.toJson
  | .usage value => value.toJson
  | .completed status =>
    .object [("type", .string "completed"), ("status", .string status.text)]

def ExecutionFailure.toJson (failure : ExecutionFailure) : JsonValue :=
  .object [("category", .string failure.category.text), ("message", .string failure.message)]

def ExecutionResult.toJson : ExecutionResult → JsonValue
  | .succeeded output => .object [("status", .string "succeeded"), ("output", output)]
  | .failed failure => .object [("status", .string "failed"), ("failure", failure.toJson)]
  | .blocked reason => .object [("status", .string "blocked"), ("reason", .string reason)]
  | .cancelled reason => .object [("status", .string "cancelled"), ("reason", .string reason)]

def ExecutionPlanRef.fields (plan : ExecutionPlanRef) : List (String × JsonValue) :=
  [("version", .string "anastom.dev/owned-execution/v1alpha1"), ("runId", .string plan.runId),
    ("executionId", .string plan.executionId), ("kind", .string plan.kind.text),
    ("generation", nat plan.generation), ("planDigest", .string plan.planDigest)]

def ExecutionPlanRef.toJson (plan : ExecutionPlanRef) : JsonValue := .object plan.fields

def PersistedExecutionRef.toJson (execution : PersistedExecutionRef) : JsonValue :=
  .object (execution.fields ++ [("manifestDigest", .string execution.manifestDigest)])

def CommandReport.toJson (report : CommandReport) : JsonValue :=
  .object [("passed", .bool report.passed),
    ("exitCode", (report.exitCode.map fun code =>
      JsonValue.number (JsonNumber.ofInt code)).getD .null),
    ("signal", (report.signal.map JsonValue.string).getD .null),
    ("durationMs", .number report.durationMs), ("stdoutBytes", nat report.stdoutBytes),
    ("stderrBytes", nat report.stderrBytes), ("stdoutTruncated", .bool report.stdoutTruncated),
    ("stderrTruncated", .bool report.stderrTruncated)]

def ArtifactRef.valid (artifact : ArtifactRef) : Bool :=
  Text.digest artifact.digest && positive artifact.producer.attempt

def WorkspaceCheckpoint.valid (checkpoint : WorkspaceCheckpoint) : Bool :=
  Text.identifier checkpoint.workspaceId && Text.digest checkpoint.diffDigest &&
    decide checkpoint.changedFiles.Nodup && Text.digest checkpoint.ignoredDigest &&
    nonnegative checkpoint.ignoredEntryCount && nonnegative checkpoint.ignoredByteCount &&
    Text.digest checkpoint.ownership.manifestDigest &&
    Text.digest checkpoint.ownership.registrationDigest &&
    checkpoint.diffArtifactId.all Text.identifier

def boundedText (minimum maximum : Nat) (s : String) : Bool :=
  decide (minimum ≤ s.toList.length ∧ s.toList.length ≤ maximum)

def RuntimeCapabilities.valid (capabilities : RuntimeCapabilities) : Bool :=
  decide capabilities.sandboxing.Nodup && decide (capabilities.sandboxing.length ≤ 32) &&
    capabilities.sandboxing.all (boundedText 1 128) &&
    capabilities.workspaceModes.all fun modes => decide modes.Nodup

/-- The shared descriptor envelope and its canonical UTF-8 persistence bound. -/
def RuntimeDescriptor.valid (descriptor : RuntimeDescriptor) : Bool :=
  Text.identifier descriptor.runtimeId && boundedText 1 256 descriptor.configurationVersion &&
    decide ((Json.canonicalJson descriptor.toJson).utf8ByteSize ≤ 16 * 1024)

def RuntimeUsage.valid (usage : RuntimeUsage) : Bool :=
  [usage.inputTokens, usage.outputTokens, usage.cacheReadTokens, usage.cacheWriteTokens,
    usage.reasoningTokens, usage.totalTokens].all (·.all nonnegative)

def RuntimeEvent.valid : RuntimeEvent → Bool
  | .log _ droppedLogs => droppedLogs.all positive
  | .usage value => value.valid
  | .started | .metadata _ | .completed _ => true

def ExecutionPlanRef.valid (plan : ExecutionPlanRef) : Bool :=
  Text.identifier plan.runId && Text.identifier plan.executionId && positive plan.generation &&
    Text.digest plan.planDigest

def PersistedExecutionRef.valid (execution : PersistedExecutionRef) : Bool :=
  execution.toExecutionPlanRef.valid && Text.digest execution.manifestDigest

def CommandReport.valid (report : CommandReport) : Bool :=
  (!report.durationMs.negative || report.durationMs.digits == 0) &&
    nonnegative report.stdoutBytes && nonnegative report.stderrBytes

end Anastom
