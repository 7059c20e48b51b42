import Anastom.ExecutionHost.CommandRecord
import Anastom.Persistence.DefinitionRecord

/-! A run state as a snapshot stores it: the canonical text of the state, parsed and taken for a
state without a check. What is read is the state that was written, in the key order of what is
read and without the sign of zero. -/
namespace Anastom
open JsonValue

namespace JsonValue
variable {α β : Type} {read : JsonValue → Option β} {toJson : α → JsonValue} {f : α → β}

/-- An array of values of one kind. -/
def asItems? (read : JsonValue → Option α) : JsonValue → Option (List α)
  | .array items => items.mapM read
  | _ => none

/-- An array that is absent where it has no elements. -/
def readElements (read : JsonValue → Option α) : Option JsonValue → Option (List α)
  | none => some []
  | some value => asItems? read value

theorem readField_written (each : ∀ a, read (toJson a).reread = some (f a)) (value : Option α) :
    readField read (value.map (reread ∘ toJson)) = some (value.map f) := by
  cases value with
  | none => rfl
  | some a => exact congrArg (Option.map some) (each a)

theorem readField_same {read : JsonValue → Option α}
    (each : ∀ a, read (toJson a).reread = some a) (value : Option α) :
    readField read (value.map (reread ∘ toJson)) = some value := by
  rw [readField_written (f := id) each, Option.map_id_apply]

theorem asItems?_written (each : ∀ a, read (toJson a).reread = some (f a)) (values : List α) :
    asItems? read (JsonValue.array (values.map toJson)).reread = some (values.map f) := by
  rw [reread, asItems?]
  induction values with
  | nil => rfl
  | cons a rest ih =>
    rw [List.map_cons, rereadItems, List.mapM_cons, each, ih]
    rfl

theorem asItems?_same {read : JsonValue → Option α}
    (each : ∀ a, read (toJson a).reread = some a) (values : List α) :
    asItems? read (JsonValue.array (values.map toJson)).reread = some values := by
  rw [asItems?_written (f := id) each, List.map_id_fun]
  rfl

@[simp] theorem lookup_optional (k key : String) (value : Option JsonValue) :
    (optional key value).lookup k = if k = key then value else none := by
  have same := lookup_field k key id value
  rwa [field, Option.map_id_apply] at same

@[simp] theorem lookup_elements (k key : String) (values : List α) :
    (elements key toJson values).lookup k =
      if k = key ∧ values ≠ [] then some (.array (values.map toJson)) else none := by
  cases values with
  | nil => simp [elements]
  | cons a rest =>
    by_cases same : k = key
    · simp [elements, same]
    · have other : (k == key) = false := by simpa using same
      simp [elements, List.lookup_cons, other, same]

theorem readElements_same {read : JsonValue → Option α}
    (each : ∀ a, read (toJson a).reread = some a) (values : List α) :
    readElements read (Option.map reread
      (if values = [] then none else some (.array (values.map toJson)))) = some values := by
  cases values with
  | nil => rfl
  | cons a rest => exact asItems?_same each (a :: rest)

theorem get?_object (fields : List (String × JsonValue)) (key : String) :
    (JsonValue.object fields).get? key = fields.lookup key := rfl

theorem asString?_text (text : String) : (JsonValue.string text).asString? = some text := rfl

theorem asString?_string (text : String) : (JsonValue.string text).reread.asString? = some text :=
  rfl

theorem asNat?_count (n : Nat) : (nat n).reread.asNat? = some n := by
  rw [asNat?_reread, asNat?_nat]

theorem asBool?_truth (truth : Bool) : (JsonValue.bool truth).reread.asBool? = some truth := rfl

/-- The entries of an object. -/
def asFields? : JsonValue → Option (List (String × JsonValue))
  | .object fields => some fields
  | _ => none

theorem asFields?_reread (fields : List (String × JsonValue)) :
    (JsonValue.object fields).reread.asFields? =
      some (Js.parsedOrder Prod.fst (rereadFields fields)) := by
  rw [reread, asFields?]

end JsonValue

def WorkspaceRef.ofJson? (value : JsonValue) : Option WorkspaceRef := do
  let id ← (value.get? "id").bind asString?
  match ← (value.get? "mode").bind asString? with
  | "memory" => some (.memory id)
  | mode => do
    let repoRoot ← (value.get? "repoRoot").bind asString?
    let path ← (value.get? "path").bind asString?
    let baseCommit ← (value.get? "baseCommit").bind asString?
    match mode with
    | "readonly" => some (.readonly id repoRoot path baseCommit)
    | "isolated" => do
      let branch ← (value.get? "branch").bind asString?
      some (.isolated id repoRoot path baseCommit branch)
    | _ => none

theorem WorkspaceRef.ofJson?_toJson (workspace : WorkspaceRef) :
    ofJson? workspace.toJson.reread = some workspace := by
  cases workspace <;> simp only [ofJson?, get?_reread] <;>
    simp [toJson, get?, List.lookup_cons, asString?_text]

def ArtifactProducer.ofJson? (value : JsonValue) : Option ArtifactProducer := do
  let runId ← (value.get? "runId").bind asString?
  let nodeId ← (value.get? "nodeId").bind asString?
  let attempt ← (value.get? "attempt").bind asNat?
  some { runId, nodeId, attempt }

theorem ArtifactProducer.ofJson?_toJson (producer : ArtifactProducer) :
    ofJson? producer.toJson.reread = some producer := by
  simp only [ofJson?, get?_reread]
  simp [toJson, get?, List.lookup_cons, asString?_text, asNat?_nat]

def ArtifactRef.ofJson? (value : JsonValue) : Option ArtifactRef := do
  let id ← (value.get? "id").bind asString?
  let type ← (value.get? "type").bind asString?
  let mediaType ← (value.get? "mediaType").bind asString?
  let uri ← (value.get? "uri").bind asString?
  let digest ← (value.get? "digest").bind asString?
  let producer ← (value.get? "producer").bind ArtifactProducer.ofJson?
  some { id, type, mediaType, uri, digest, producer }

theorem ArtifactRef.ofJson?_toJson (artifact : ArtifactRef) :
    ofJson? artifact.toJson.reread = some artifact := by
  simp only [ofJson?, get?_reread]
  simp [toJson, get?, List.lookup_cons, asString?_text, ArtifactProducer.ofJson?_toJson]

def WorkspaceOwnership.ofJson? (value : JsonValue) : Option WorkspaceOwnership := do
  let repositoryRoot ← (value.get? "repositoryRoot").bind asString?
  let repositoryCommonDirectory ← (value.get? "repositoryCommonDirectory").bind asString?
  let workspacePath ← (value.get? "workspacePath").bind asString?
  let workspaceGitDirectory ← (value.get? "workspaceGitDirectory").bind asString?
  let branch ← (value.get? "branch").bind asString?
  let manifestDigest ← (value.get? "manifestDigest").bind asString?
  let registrationDigest ← (value.get? "registrationDigest").bind asString?
  some { repositoryRoot, repositoryCommonDirectory, workspacePath, workspaceGitDirectory, branch,
         manifestDigest, registrationDigest }

theorem WorkspaceOwnership.ofJson?_toJson (ownership : WorkspaceOwnership) :
    ofJson? ownership.toJson.reread = some ownership := by
  simp only [ofJson?, get?_reread]
  simp [toJson, get?, List.lookup_cons, asString?_text]

def WorkspaceCheckpoint.ofJson? (value : JsonValue) : Option WorkspaceCheckpoint := do
  let workspaceId ← (value.get? "workspaceId").bind asString?
  let baseCommit ← (value.get? "baseCommit").bind asString?
  let headCommit ← (value.get? "headCommit").bind asString?
  let diffDigest ← (value.get? "diffDigest").bind asString?
  let changedFiles ← (value.get? "changedFiles").bind asStrings?
  let ignoredDigest ← (value.get? "ignoredDigest").bind asString?
  let ignoredEntryCount ← (value.get? "ignoredEntryCount").bind asNat?
  let ignoredByteCount ← (value.get? "ignoredByteCount").bind asNat?
  let ownership ← (value.get? "ownership").bind WorkspaceOwnership.ofJson?
  let diffArtifactId ← readField asString? (value.get? "diffArtifactId")
  some { workspaceId, baseCommit, headCommit, diffDigest, changedFiles, ignoredDigest,
         ignoredEntryCount, ignoredByteCount, ownership, diffArtifactId }

theorem WorkspaceCheckpoint.ofJson?_toJson (checkpoint : WorkspaceCheckpoint) :
    ofJson? checkpoint.toJson.reread = some checkpoint := by
  simp only [ofJson?, get?_reread]
  simp [toJson, get?, List.lookup_cons, asString?_text, asNat?_nat, asStrings?_strings,
    WorkspaceOwnership.ofJson?_toJson, readField_same asString?_string]

def WorkspaceMode.ofJson? : JsonValue → Option WorkspaceMode :=
  asChoice? [.memory, .readonly, .isolated] WorkspaceMode.text

theorem WorkspaceMode.ofJson?_text (mode : WorkspaceMode) :
    ofJson? (JsonValue.string mode.text).reread = some mode := by
  cases mode <;> rfl

def StructuredOutput.ofJson? : JsonValue → Option StructuredOutput :=
  asChoice? [.native, .prompted, .none] StructuredOutput.text

theorem StructuredOutput.ofJson?_text (output : StructuredOutput) :
    ofJson? (JsonValue.string output.text).reread = some output := by
  cases output <;> rfl

def UsageReporting.ofJson? : JsonValue → Option UsageReporting :=
  asChoice? [.tokens, .cost, .partialTokens, .none] UsageReporting.text

theorem UsageReporting.ofJson?_text (reporting : UsageReporting) :
    ofJson? (JsonValue.string reporting.text).reread = some reporting := by
  cases reporting <;> rfl

def RuntimeCapabilities.ofJson? (value : JsonValue) : Option RuntimeCapabilities := do
  let streaming ← (value.get? "streaming").bind asBool?
  let cancellation ← (value.get? "cancellation").bind asBool?
  let resumableSession ← (value.get? "resumableSession").bind asBool?
  let nativeSubagents ← (value.get? "nativeSubagents").bind asBool?
  let mcp ← (value.get? "mcp").bind asBool?
  let lsp ← (value.get? "lsp").bind asBool?
  let debugger ← (value.get? "debugger").bind asBool?
  let browser ← (value.get? "browser").bind asBool?
  let structuredOutput ← (value.get? "structuredOutput").bind
    StructuredOutput.ofJson?
  let usageReporting ← (value.get? "usageReporting").bind
    UsageReporting.ofJson?
  let sandboxing ← (value.get? "sandboxing").bind asStrings?
  let workspaceModes ← readField
    (asItems? WorkspaceMode.ofJson?)
    (value.get? "workspaceModes")
  some { streaming, cancellation, resumableSession, nativeSubagents, mcp, lsp, debugger, browser,
         structuredOutput, usageReporting, sandboxing, workspaceModes }

theorem RuntimeCapabilities.ofJson?_toJson (capabilities : RuntimeCapabilities) :
    ofJson? capabilities.toJson.reread = some capabilities := by
  have modes (modes : List WorkspaceMode) :
      asItems? WorkspaceMode.ofJson?
        (strings (modes.map WorkspaceMode.text)).reread = some modes := by
    rw [strings, List.map_map]
    exact asItems?_same WorkspaceMode.ofJson?_text modes
  simp only [ofJson?, get?_reread]
  simp [toJson, get?, List.lookup_cons, asBool?_truth, StructuredOutput.ofJson?_text,
    UsageReporting.ofJson?_text, asStrings?_strings, readField_same modes]

def MutationMode.ofJson? : JsonValue → Option MutationMode :=
  asChoice? [.readonly, .isolated] MutationMode.text

theorem MutationMode.ofJson?_text (mode : MutationMode) :
    ofJson? (JsonValue.string mode.text).reread = some mode := by
  cases mode <;> rfl

def RuntimeNegotiation.ofJson? (value : JsonValue) : Option RuntimeNegotiation := do
  let runtimeId ← (value.get? "runtimeId").bind asString?
  let requirements ← value.get? "requirements"
  let workspaceMode ← (requirements.get? "workspaceMode").bind
    MutationMode.ofJson?
  let capabilities ← (value.get? "capabilities").bind RuntimeCapabilities.ofJson?
  some { runtimeId, workspaceMode, capabilities }

theorem RuntimeNegotiation.ofJson?_toJson (negotiation : RuntimeNegotiation) :
    ofJson? negotiation.toJson.reread = some negotiation := by
  simp only [ofJson?, get?_reread]
  simp [toJson, get?_object, get?_reread, List.lookup_cons, asString?_text,
    MutationMode.ofJson?_text, RuntimeCapabilities.ofJson?_toJson]

def RuntimeDescriptor.ofJson? (value : JsonValue) : Option RuntimeDescriptor := do
  let runtimeId ← (value.get? "runtimeId").bind asString?
  let configurationVersion ← (value.get? "configurationVersion").bind asString?
  let configuration ← (value.get? "configuration").bind asFields?
  some { runtimeId, configurationVersion, configuration }

theorem RuntimeDescriptor.ofJson?_reread (descriptor : RuntimeDescriptor) :
    ofJson? descriptor.toJson.reread = some descriptor.reread := by
  simp only [ofJson?, get?_reread]
  simp [toJson, get?, List.lookup_cons, asString?_text, asFields?_reread, RuntimeDescriptor.reread]

def MetadataSource.ofJson? : JsonValue → Option MetadataSource :=
  asChoice? [.configured, .reported] MetadataSource.text

theorem MetadataSource.ofJson?_text (source : MetadataSource) :
    ofJson? (JsonValue.string source.text).reread = some source := by
  cases source <;> rfl

def RuntimeMetadata.ofJson? (value : JsonValue) : Option RuntimeMetadata := do
  let provider ← (value.get? "provider").bind asString?
  let model ← (value.get? "model").bind asString?
  let source ← readField MetadataSource.ofJson?
    (value.get? "source")
  let runtimeVersion ← readField asString? (value.get? "runtimeVersion")
  some { provider, model, source, runtimeVersion }

theorem RuntimeMetadata.ofJson?_toJson (metadata : RuntimeMetadata) :
    ofJson? metadata.toJson.reread = some metadata := by
  simp only [ofJson?, get?_reread]
  simp [toJson, get?, List.lookup_cons, List.lookup_append, asString?_text,
    readField_same MetadataSource.ofJson?_text, readField_same asString?_string]

def UsageCoverage.ofJson? : JsonValue → Option UsageCoverage :=
  asChoice? [.complete, .partialCoverage] UsageCoverage.text

theorem UsageCoverage.ofJson?_text (coverage : UsageCoverage) :
    ofJson? (JsonValue.string coverage.text).reread = some coverage := by
  cases coverage <;> rfl

def RuntimeUsage.ofJson? (value : JsonValue) : Option RuntimeUsage := do
  let coverage ← (value.get? "coverage").bind
    UsageCoverage.ofJson?
  let inputTokens ← readField asNat? (value.get? "inputTokens")
  let outputTokens ← readField asNat? (value.get? "outputTokens")
  let cacheReadTokens ← readField asNat? (value.get? "cacheReadTokens")
  let cacheWriteTokens ← readField asNat? (value.get? "cacheWriteTokens")
  let reasoningTokens ← readField asNat? (value.get? "reasoningTokens")
  let totalTokens ← readField asNat? (value.get? "totalTokens")
  some { coverage, inputTokens, outputTokens, cacheReadTokens, cacheWriteTokens, reasoningTokens,
         totalTokens }

theorem RuntimeUsage.ofJson?_toJson (usage : RuntimeUsage) :
    ofJson? usage.toJson.reread = some usage := by
  simp only [ofJson?, get?_reread]
  simp [toJson, get?, List.lookup_cons, List.lookup_append, UsageCoverage.ofJson?_text,
    readField_same asNat?_count]

def ExecutionKind.ofJson? : JsonValue → Option ExecutionKind :=
  asChoice? [.runtime, .command] ExecutionKind.text

theorem ExecutionKind.ofJson?_text (kind : ExecutionKind) :
    ofJson? (JsonValue.string kind.text).reread = some kind := by
  cases kind <;> rfl

def ExecutionPlanRef.ofJson? (value : JsonValue) : Option ExecutionPlanRef := do
  let runId ← (value.get? "runId").bind asString?
  let executionId ← (value.get? "executionId").bind asString?
  let kind ← (value.get? "kind").bind
    ExecutionKind.ofJson?
  let generation ← (value.get? "generation").bind asNat?
  let planDigest ← (value.get? "planDigest").bind asString?
  some { runId, executionId, kind, generation, planDigest }

theorem ExecutionPlanRef.ofJson?_fields (plan : ExecutionPlanRef)
    (more : List (String × JsonValue)) :
    ofJson? (JsonValue.object (plan.fields ++ more)).reread = some plan := by
  simp only [ofJson?, get?_reread]
  simp [fields, get?, List.lookup_cons, asString?_text, asNat?_nat, ExecutionKind.ofJson?_text]

theorem ExecutionPlanRef.ofJson?_toJson (plan : ExecutionPlanRef) :
    ofJson? plan.toJson.reread = some plan := by
  rw [toJson, ← List.append_nil plan.fields]
  exact ofJson?_fields plan []

def PersistedExecutionRef.ofJson? (value : JsonValue) : Option PersistedExecutionRef := do
  let plan ← ExecutionPlanRef.ofJson? value
  let manifestDigest ← (value.get? "manifestDigest").bind asString?
  some { plan with manifestDigest }

theorem PersistedExecutionRef.ofJson?_toJson (execution : PersistedExecutionRef) :
    ofJson? execution.toJson.reread = some execution := by
  rw [ofJson?, toJson, ExecutionPlanRef.ofJson?_fields, get?_reread]
  simp [ExecutionPlanRef.fields, get?, List.lookup_cons, asString?_text]

def ExecutionObservationReason.ofJson? : JsonValue → Option ExecutionObservationReason :=
  asChoice? [.invalidRecord, .identityMismatch, .bootMismatch, .supervisorUnreachable,
    .supervisorLost, .cleanupUnconfirmed] ExecutionObservationReason.text

theorem ExecutionObservationReason.ofJson?_text (reason : ExecutionObservationReason) :
    ofJson? (JsonValue.string reason.text).reread = some reason := by
  cases reason <;> rfl

def RecoveryBlockReason.ofJson? (value : JsonValue) : Option RecoveryBlockReason := do
  let executionId ← (value.get? "executionId").bind asString?
  match ← (value.get? "kind").bind asString? with
  | "execution-unknown" => do
    let detail ← (value.get? "detail").bind ExecutionObservationReason.ofJson?
    some (.executionUnknown executionId detail)
  | "cleanup-unknown" => some (.cleanupUnknown executionId)
  | _ => none

theorem RecoveryBlockReason.ofJson?_toJson (reason : RecoveryBlockReason) :
    ofJson? reason.toJson.reread = some reason := by
  cases reason with
  | executionUnknown executionId detail =>
    simp only [ofJson?, get?_reread]
    simp [toJson, get?, List.lookup_cons, asString?_text, ExecutionObservationReason.ofJson?_text]
  | cleanupUnknown executionId =>
    simp only [ofJson?, get?_reread]
    simp [toJson, get?, List.lookup_cons, asString?_text]

def WorkspaceDifference.ofJson? : JsonValue → Option WorkspaceDifference :=
  asChoice? [.version, .workspaceId, .baseCommit, .headCommit, .diffDigest, .changedFiles,
    .ignoredContent, .repository, .workspacePath, .branch, .ownershipManifest,
    .worktreeRegistration] WorkspaceDifference.text

theorem WorkspaceDifference.ofJson?_text (difference : WorkspaceDifference) :
    ofJson? (JsonValue.string difference.text).reread = some difference := by
  cases difference <;> rfl

theorem asItems?_differences (differences : List WorkspaceDifference) :
    asItems? WorkspaceDifference.ofJson?
      (strings (differences.map WorkspaceDifference.text)).reread = some differences := by
  rw [strings, List.map_map]
  exact asItems?_same WorkspaceDifference.ofJson?_text differences

def PauseReason.ofJson? (value : JsonValue) : Option PauseReason := do
  match ← (value.get? "kind").bind asString? with
  | "operator" => ((value.get? "operationId").bind asString?).map .operator
  | "workspace-conflict" =>
    ((value.get? "differences").bind
      (asItems? WorkspaceDifference.ofJson?)).map .workspaceConflict
  | "attempt-budget-exhausted" => do
    let nodeId ← (value.get? "nodeId").bind asString?
    let attempts ← (value.get? "attempts").bind asNat?
    some (.attemptBudgetExhausted nodeId attempts)
  | "runtime-unavailable" => ((value.get? "runtimeId").bind asString?).map .runtimeUnavailable
  | "policy-violation" => ((value.get? "runtimeId").bind asString?).map .policyViolation
  | _ => none

theorem PauseReason.ofJson?_toJson (reason : PauseReason) :
    ofJson? reason.toJson.reread = some reason := by
  cases reason <;> simp only [ofJson?, get?_reread] <;>
    simp [toJson, get?, List.lookup_cons, asString?_text, asNat?_nat, asItems?_differences]

def CancellationOutcome.ofJson? : JsonValue → Option CancellationOutcome :=
  asChoice? [.succeeded, .failed, .unavailable] CancellationOutcome.text

theorem CancellationOutcome.ofJson?_text (outcome : CancellationOutcome) :
    ofJson? (JsonValue.string outcome.text).reread = some outcome := by
  cases outcome <;> rfl

def ResultStatus.ofJson? : JsonValue → Option ResultStatus :=
  asChoice? [.succeeded, .failed, .blocked, .cancelled] ResultStatus.text

theorem ResultStatus.ofJson?_text (status : ResultStatus) :
    ofJson? (JsonValue.string status.text).reread = some status := by
  cases status <;> rfl

def TimeoutState.ofJson? (value : JsonValue) : Option TimeoutState := do
  let cancellation ← readField
    CancellationOutcome.ofJson?
    (value.get? "cancellation")
  let lateStatus ← readField
    ResultStatus.ofJson?
    (value.get? "lateStatus")
  some { cancellation, lateStatus }

theorem TimeoutState.ofJson?_toJson (timeout : TimeoutState) :
    ofJson? timeout.toJson.reread = some timeout := by
  simp only [ofJson?, get?_reread]
  simp [toJson, get?, List.lookup_append, readField_same CancellationOutcome.ofJson?_text,
    readField_same ResultStatus.ofJson?_text]

def CleanupCause.ofJson? : JsonValue → Option CleanupCause :=
  asChoice? [.pause, .cancel, .timeout, .recovery] CleanupCause.text

theorem CleanupCause.ofJson?_text (cause : CleanupCause) :
    ofJson? (JsonValue.string cause.text).reread = some cause := by
  cases cause <;> rfl

def CleanupOutcome.ofJson? : JsonValue → Option CleanupOutcome :=
  asChoice? [.confirmed, .unknown] CleanupOutcome.text

theorem CleanupOutcome.ofJson?_text (outcome : CleanupOutcome) :
    ofJson? (JsonValue.string outcome.text).reread = some outcome := by
  cases outcome <;> rfl

def CleanupEvidence.ofJson? (value : JsonValue) : Option CleanupEvidence := do
  let executionId ← (value.get? "executionId").bind asString?
  let cause ← (value.get? "cause").bind
    CleanupCause.ofJson?
  let outcome ← (value.get? "outcome").bind
    CleanupOutcome.ofJson?
  some { executionId, cause, outcome }

theorem CleanupEvidence.ofJson?_fields (evidence : CleanupEvidence) :
    ofJson? (JsonValue.object evidence.fields).reread = some evidence := by
  simp only [ofJson?, get?_reread]
  simp [fields, get?, List.lookup_cons, asString?_text, CleanupCause.ofJson?_text,
    CleanupOutcome.ofJson?_text]

def OrphanReason.ofJson? : JsonValue → Option OrphanReason :=
  asChoice? [.coordinatorLost, .launchInterrupted] OrphanReason.text

theorem OrphanReason.ofJson?_text (reason : OrphanReason) :
    ofJson? (JsonValue.string reason.text).reread = some reason := by
  cases reason <;> rfl

def OrphanRecord.ofJson? (value : JsonValue) : Option OrphanRecord := do
  let executionId ← (value.get? "executionId").bind asString?
  let lostGeneration ← (value.get? "lostGeneration").bind asNat?
  let reason ← (value.get? "reason").bind
    OrphanReason.ofJson?
  let workspaceObservation ← (value.get? "workspaceObservation").bind WorkspaceCheckpoint.ofJson?
  let workspaceDifferences ← (value.get? "workspaceDifferences").bind
    (asItems? WorkspaceDifference.ofJson?)
  let terminalArtifactId ← readField asString? (value.get? "terminalArtifactId")
  some { executionId, lostGeneration, reason, workspaceObservation, workspaceDifferences,
         terminalArtifactId }

theorem OrphanRecord.ofJson?_fields (record : OrphanRecord) :
    ofJson? (JsonValue.object record.fields).reread = some record := by
  simp only [ofJson?, get?_reread]
  simp [fields, get?, List.lookup_cons, asString?_text, asNat?_nat, OrphanReason.ofJson?_text,
    WorkspaceCheckpoint.ofJson?_toJson, asItems?_differences, readField_same asString?_string]

def AttemptStatus.ofJson? : JsonValue → Option AttemptStatus :=
  asChoice? [.scheduled, .prepared, .running, .orphaned, .blocked, .succeeded, .failed,
    .cancelled] AttemptStatus.text

theorem AttemptStatus.ofJson?_text (status : AttemptStatus) :
    ofJson? (JsonValue.string status.text).reread = some status := by
  cases status <;> rfl

def AttemptState.ofJson? (value : JsonValue) : Option AttemptState := do
  let number ← (value.get? "number").bind asNat?
  let runtimeId ← (value.get? "runtimeId").bind asString?
  let status ← (value.get? "status").bind AttemptStatus.ofJson?
  let failure ← readField ExecutionFailure.ofJson? (value.get? "failure")
  let identity ← readElements RuntimeMetadata.ofJson? (value.get? "identity")
  let usage ← readField RuntimeUsage.ofJson? (value.get? "usage")
  let timeout ← readField TimeoutState.ofJson? (value.get? "timeout")
  let executionPlan ← readField ExecutionPlanRef.ofJson? (value.get? "executionPlan")
  let execution ← readField PersistedExecutionRef.ofJson? (value.get? "execution")
  let workspaceCheckpoint ←
    readField WorkspaceCheckpoint.ofJson? (value.get? "workspaceCheckpoint")
  let cleanup ← readElements CleanupEvidence.ofJson? (value.get? "cleanup")
  let orphan ← readField OrphanRecord.ofJson? (value.get? "orphan")
  some { number, runtimeId, status, failure, identity, usage, timeout, executionPlan, execution,
         workspaceCheckpoint, cleanup, orphan }

theorem AttemptState.ofJson?_toJson (attempt : AttemptState) :
    ofJson? attempt.toJson.reread = some attempt := by
  simp only [ofJson?, get?_reread]
  simp [toJson, get?, List.lookup_cons, List.lookup_append, asString?_text, asNat?_nat,
    AttemptStatus.ofJson?_text, readField_same ofJson?_failure,
    readElements_same RuntimeMetadata.ofJson?_toJson, readField_same RuntimeUsage.ofJson?_toJson,
    readField_same TimeoutState.ofJson?_toJson, readField_same ExecutionPlanRef.ofJson?_toJson,
    readField_same PersistedExecutionRef.ofJson?_toJson,
    readField_same WorkspaceCheckpoint.ofJson?_toJson,
    readElements_same CleanupEvidence.ofJson?_fields, readField_same OrphanRecord.ofJson?_fields]

def NodeStatus.ofJson? : JsonValue → Option NodeStatus :=
  asChoice? [.pending, .ready, .running, .blocked, .succeeded, .failed, .paused, .cancelled]
    NodeStatus.text

theorem NodeStatus.ofJson?_text (status : NodeStatus) :
    ofJson? (JsonValue.string status.text).reread = some status := by
  cases status <;> rfl

def NodeRunState.ofJson? (value : JsonValue) : Option NodeRunState := do
  let id ← (value.get? "id").bind asString?
  let status ← (value.get? "status").bind NodeStatus.ofJson?
  let attempts ← (value.get? "attempts").bind (asItems? AttemptState.ofJson?)
  let output ← readField some (value.get? "output")
  let failure ← readField ExecutionFailure.ofJson? (value.get? "failure")
  let blockedReason ← readField asString? (value.get? "blockedReason")
  let command ← readField CommandReport.ofJson? (value.get? "command")
  let pauseReason ← readField PauseReason.ofJson? (value.get? "pauseReason")
  some { id, status, attempts, output, failure, blockedReason, command, pauseReason }

theorem NodeRunState.ofJson?_reread (node : NodeRunState) :
    ofJson? node.toJson.reread = some node.reread := by
  have output : readField some (node.output.map JsonValue.reread) =
      some (node.output.map JsonValue.reread) := by
    cases node.output <;> rfl
  have command := readField_written (f := CommandReport.reread) ofJson?_report node.command
  simp only [ofJson?, get?_reread]
  simp [toJson, get?, List.lookup_cons, List.lookup_append, asString?_text, NodeStatus.ofJson?_text,
    output, command,
    asItems?_same AttemptState.ofJson?_toJson, readField_same ofJson?_failure,
    readField_same asString?_string, readField_same PauseReason.ofJson?_toJson, reread]

def RunStatus.ofJson? : JsonValue → Option RunStatus :=
  asChoice? [.running, .blocked, .succeeded, .failed, .paused, .cancelled, .recoveryBlocked]
    RunStatus.text

theorem RunStatus.ofJson?_text (status : RunStatus) :
    ofJson? (JsonValue.string status.text).reread = some status := by
  cases status <;> rfl

def RecoveryBlock.ofJson? (value : JsonValue) : Option RecoveryBlock := do
  let operationId ← (value.get? "operationId").bind asString?
  let reason ← (value.get? "reason").bind RecoveryBlockReason.ofJson?
  some { operationId, reason }

theorem RecoveryBlock.ofJson?_written (block : RecoveryBlock) :
    ofJson? (JsonValue.object [("operationId", .string block.operationId),
      ("reason", block.reason.toJson)]).reread = some block := by
  simp only [ofJson?, get?_reread]
  simp [get?, List.lookup_cons, asString?_text, RecoveryBlockReason.ofJson?_toJson]

def WorkspaceObservation.ofJson? (value : JsonValue) : Option WorkspaceObservation := do
  let headCommit ← (value.get? "headCommit").bind asString?
  let changedFiles ← (value.get? "changedFiles").bind asStrings?
  let diffArtifactId ← (value.get? "diffArtifactId").bind asString?
  some { headCommit, changedFiles, diffArtifactId }

theorem WorkspaceObservation.ofJson?_written (observation : WorkspaceObservation) :
    ofJson? (JsonValue.object [("headCommit", .string observation.headCommit),
      ("changedFiles", strings observation.changedFiles),
      ("diffArtifactId", .string observation.diffArtifactId)]).reread = some observation := by
  simp only [ofJson?, get?_reread]
  simp [get?, List.lookup_cons, asString?_text, asStrings?_strings]

/-- The nodes of a state, each under its id. -/
def nodesOfJson? (value : JsonValue) : Option (List NodeRunState) :=
  (asTable? NodeRunState.ofJson? value).map fun entries => entries.map Prod.snd

theorem nodesOfJson?_reread (nodes : List NodeRunState) :
    nodesOfJson? (JsonValue.object (nodes.map fun node => (node.id, node.toJson))).reread =
      some (Js.parsedOrder NodeRunState.id (nodes.map NodeRunState.reread)) := by
  have entries := asTable?_reread NodeRunState.ofJson?_reread
    (nodes.map fun node => (node.id, node))
  rw [tableJson, List.map_map, List.map_map] at entries
  rw [nodesOfJson?]
  refine (congrArg (Option.map _) entries).trans ?_
  rw [Option.map_some, Js.parsedOrder_map, Js.parsedOrder_map, List.map_map]
  rfl

/-- The state that a snapshot's parsed text is taken for. -/
def RunState.ofJson? (value : JsonValue) : Option RunState := do
  let runId ← (value.get? "runId").bind asString?
  let workflowInstanceId ← (value.get? "workflowInstanceId").bind asString?
  let workflowId ← (value.get? "workflowId").bind asString?
  let workflowVersion ← (value.get? "workflowVersion").bind asString?
  let status ← (value.get? "status").bind RunStatus.ofJson?
  let sequence ← (value.get? "sequence").bind asNat?
  let inputs ← (value.get? "inputs").bind asFields?
  let nodes ← (value.get? "nodes").bind nodesOfJson?
  let workspace ← readField WorkspaceRef.ofJson? (value.get? "workspace")
  let runtimeNegotiation ← readField RuntimeNegotiation.ofJson? (value.get? "runtimeNegotiation")
  let runtimeDescriptor ← readField RuntimeDescriptor.ofJson? (value.get? "runtimeDescriptor")
  let pauseReason ← readField PauseReason.ofJson? (value.get? "pauseReason")
  let recoveryBlock ← readField RecoveryBlock.ofJson? (value.get? "recoveryBlock")
  let artifacts ← readElements ArtifactRef.ofJson? (value.get? "artifacts")
  let workspaceObservation ←
    readField WorkspaceObservation.ofJson? (value.get? "workspaceObservation")
  some { runId, workflowInstanceId, workflowId, workflowVersion, status, sequence, inputs, nodes,
         workspace, runtimeNegotiation, runtimeDescriptor, pauseReason, recoveryBlock, artifacts,
         workspaceObservation }

theorem RunState.ofJson?_reread (state : RunState) :
    ofJson? state.toJson.reread = some state.reread := by
  have descriptor := readField_written (f := RuntimeDescriptor.reread)
    RuntimeDescriptor.ofJson?_reread state.runtimeDescriptor
  simp only [ofJson?, get?_reread]
  simp [toJson, get?, List.lookup_cons, List.lookup_append, asString?_text, asNat?_nat,
    RunStatus.ofJson?_text, asFields?_reread, nodesOfJson?_reread,
    readField_same WorkspaceRef.ofJson?_toJson, readField_same RuntimeNegotiation.ofJson?_toJson,
    descriptor, readField_same PauseReason.ofJson?_toJson,
    readField_same RecoveryBlock.ofJson?_written, readElements_same ArtifactRef.ofJson?_toJson,
    readField_same WorkspaceObservation.ofJson?_written, reread]

/-- What `JSON.parse` makes of a snapshot's text is the state that was written, reread. -/
theorem RunState.parse_canonicalJson {state : RunState}
    (distinct : state.toJson.distinctKeys = true) :
    (Json.parse (Json.canonicalJson state.toJson)).bind ofJson? = some state.reread := by
  rw [Json.parse_canonicalJson distinct, Option.bind_some, ofJson?_reread]

end Anastom
