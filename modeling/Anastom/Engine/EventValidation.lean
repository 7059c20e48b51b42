import Anastom.Data.Outcomes
import Anastom.Engine.RunEvent

/-! Failures the engine raises, and the payload check every event passes before it
is folded. The record types already fix field names and enumerations, so the
check keeps what they leave open: patterns, bounds and uniqueness. -/
namespace Anastom

inductive RunStoreErrorCode where
  | notFound | ownershipConflict | leaseExpired | sequenceConflict | idempotencyConflict
  | controlConflict | busy | corruptStore
  deriving DecidableEq, Repr

inductive PreflightCategory where
  | policyViolation | runtimeUnavailable
  deriving DecidableEq, Repr

inductive RunOwnershipBlockReason where
  | leaseActive | ownerAlive | ownerUnknown
  deriving DecidableEq, Repr

/-- A thrown error: its class, and the code or category a caller dispatches on. -/
inductive Failure where
  | error (message : String)
  | typeError (message : String)
  | rangeError (message : String)
  | invalidTransition (message : String)
  | preflight (category : PreflightCategory) (message : String)
  | store (code : RunStoreErrorCode) (message : String)
  | ownershipBlocked (reason : RunOwnershipBlockReason)
  | runNotFound (runId : String)
  deriving DecidableEq, Repr

/-- `if (!condition) throw failure` -/
def require (condition : Bool) (failure : Failure) : Except Failure Unit :=
  if condition then .ok () else .error failure

@[simp] theorem require_ok {condition : Bool} {failure : Failure} {u : Unit} :
    require condition failure = .ok u ↔ condition = true := by
  cases condition <;> simp [require]

theorem require_bind_ok {condition : Bool} {failure : Failure} {next : Except Failure α} {a : α} :
    (require condition failure >>= fun _ => next) = .ok a ↔ condition = true ∧ next = .ok a := by
  cases condition <;> simp [require, bind, Except.bind]

/-- The value of an optional property, or the failure thrown for `undefined`. -/
def requireSome (value : Option α) (failure : Failure) : Except Failure α :=
  match value with
  | some a => .ok a
  | none => .error failure

@[simp] theorem requireSome_ok {value : Option α} {failure : Failure} {a : α} :
    requireSome value failure = .ok a ↔ value = some a := by
  cases value <;> simp [requireSome]

theorem requireSome_bind_ok {value : Option α} {failure : Failure} {f : α → Except Failure β}
    {b : β} : (requireSome value failure >>= f) = .ok b ↔ ∃ a, value = some a ∧ f a = .ok b := by
  rw [bind_ok]
  simp only [requireSome_ok]

namespace EventValidation

def pauseReason : PauseReason → Bool
  | .operator operationId => Text.identifier operationId
  | .workspaceConflict differences => decide differences.Nodup
  | .attemptBudgetExhausted nodeId attempts => Text.identifier nodeId && positive attempts
  | .runtimeUnavailable runtimeId | .policyViolation runtimeId => Text.identifier runtimeId

def recoveryBlockReason (reason : RecoveryBlockReason) : Bool :=
  Text.identifier reason.executionId

def orphanRecord (record : OrphanRecord) : Bool :=
  Text.identifier record.executionId && positive record.lostGeneration &&
    record.workspaceObservation.valid && decide record.workspaceDifferences.Nodup &&
    record.terminalArtifactId.all Text.identifier

def payload : RunEventPayload → Bool
  | .runtimeNegotiated negotiation => negotiation.capabilities.valid
  | .runtimeConfigured descriptor => descriptor.valid
  | .workspaceAssigned _ => true
  | .artifactProduced _ attempt artifact => positive attempt && artifact.valid
  | .workspaceObserved _ attempt _ _ _ | .attemptTimeoutRequested _ attempt
  | .attemptCancellationCompleted _ attempt _ | .lateResultObserved _ attempt _
  | .attemptScheduled _ attempt _ | .attemptStarted _ attempt
  | .attemptSucceeded _ attempt _ | .attemptFailed _ attempt _ | .attemptBlocked _ attempt _
  | .attemptCancelled _ attempt _ => positive attempt
  | .commandCompleted _ attempt output => positive attempt && output.valid
  | .runCreated _ _ _ nodeIds _ => !nodeIds.isEmpty && decide nodeIds.Nodup
  | .attemptPrepared _ attempt execution workspaceCheckpoint =>
    positive attempt && execution.valid && workspaceCheckpoint.valid
  | .attemptStartAuthorized _ attempt execution => positive attempt && execution.valid
  | .runtimeEventObserved _ attempt event => positive attempt && event.valid
  | .attemptOrphaned _ attempt record => positive attempt && orphanRecord record
  | .controlRequestObserved operationId _ recordedAtMs =>
    Text.identifier operationId && positive recordedAtMs
  | .executionCleanupObserved _ attempt evidence =>
    positive attempt && Text.identifier evidence.executionId
  | .nodePaused _ reason | .runPaused reason => reason.all pauseReason
  | .runResumed operationId | .runCancelled operationId _ => operationId.all Text.identifier
  | .runRecoveryBlocked operationId reason =>
    Text.identifier operationId && recoveryBlockReason reason
  | .nodeReady .. | .nodeSucceeded .. | .nodeFailed .. | .nodeBlocked .. | .nodeCancelled ..
  | .runBlocked .. | .runCompleted .. => true

end EventValidation

def validRunEvent (event : RunEvent) : Bool :=
  positive event.sequence && EventValidation.payload event.payload

/-- Validate an event's payload before replay. The detail after the event type is
the schema validator's own text and is left out. -/
def assertRunEvent (event : RunEvent) : Except Failure Unit :=
  require (validRunEvent event) (.error ("Corrupt run event " ++ event.payload.type))

end Anastom
