import Anastom.Engine.Replay

/-! The durable store's records, the validation both implementations share, and
the snapshot cache record. Times, generations and sequences are naturals: a clock
reading that is not a positive safe integer is any number outside `positive`. -/
namespace Anastom

/-- Production lease duration. -/
def runLeaseDurationMs : Nat := 15000

/-- Maximum canonical state bytes accepted in a rebuildable snapshot. -/
def runSnapshotMaxBytes : Nat := 4 * 1024 * 1024

/-- The services of the platform the engine is linked with. -/
structure Platform where
  ajv : Ajv
  hash : Hash

/-- Initial domain-separated digest for an empty event history. -/
def Hash.emptyEventHistoryDigest (hash : Hash) : String :=
  hash.digestBytes "anastom.dev/event-history/v1alpha1\n"

structure LocalProcessIdentity where
  hostIdentityDigest : String
  bootIdentityDigest : String
  pid : Nat
  startToken : String
  deriving DecidableEq, Repr

def LocalProcessIdentity.toJson (identity : LocalProcessIdentity) : JsonValue :=
  .object [("version", .string "anastom.dev/local-process/v1alpha1"),
    ("hostIdentityDigest", .string identity.hostIdentityDigest),
    ("bootIdentityDigest", .string identity.bootIdentityDigest),
    ("pid", JsonValue.nat identity.pid), ("startToken", .string identity.startToken)]

/-- Current durable ownership record for one run. -/
structure RunLease where
  runId : String
  ownerId : String
  owner : LocalProcessIdentity
  generation : Nat
  acquiredAtMs : Nat
  renewedAtMs : Nat
  expiresAtMs : Nat
  released : Bool
  deriving DecidableEq, Repr

/-- Minimal fence supplied to every owned mutation. -/
structure RunLeaseToken where
  runId : String
  ownerId : String
  generation : Nat
  deriving DecidableEq, Repr

/-- Rebuildable materialized state. `stateJson` is given by the state whose
canonical text it is; every other field is what the writer claims. -/
structure RunSnapshot where
  runId : String
  definitionDigest : String
  sequence : Nat
  state : RunState
  stateDigest : String
  eventPrefixDigest : String
  deriving DecidableEq, Repr

def RunSnapshot.stateJson (snapshot : RunSnapshot) : String :=
  Json.canonicalJson snapshot.state.toJson

/-- `isDeepStrictEqual`: states are compared by the text they are stored as. -/
def RunSnapshot.same (left right : RunSnapshot) : Bool :=
  left.runId == right.runId && left.definitionDigest == right.definitionDigest &&
    left.sequence == right.sequence && left.stateJson == right.stateJson &&
    left.stateDigest == right.stateDigest && left.eventPrefixDigest == right.eventPrefixDigest

structure CreateOwnedRun where
  runId : String
  workflow : WorkflowDefinition
  initialEvents : List RunEvent
  ownerId : String
  owner : LocalProcessIdentity
  operationId : String
  snapshot : RunSnapshot
  deriving DecidableEq, Repr

structure AcquireReleasedRun where
  runId : String
  ownerId : String
  owner : LocalProcessIdentity
  deriving DecidableEq, Repr

/-- A takeover names the exact lease and the absent observation of its owner. -/
structure TakeoverExpiredRun extends AcquireReleasedRun where
  observedLease : RunLease
  absentObservedAtMs : Nat
  deriving DecidableEq, Repr

/-- One fenced, idempotent append and its optional cache and control effects. -/
structure FencedRunMutation where
  lease : RunLeaseToken
  operationId : String
  expectedSequence : Nat
  events : List RunEvent
  snapshot : Option RunSnapshot := none
  handlesControlOperationId : Option String := none
  deriving DecidableEq, Repr

structure MutationReceipt where
  runId : String
  operationId : String
  firstSequence : Nat
  lastSequence : Nat
  replayed : Bool
  deriving DecidableEq, Repr

structure OwnedRunReceipt where
  lease : RunLeaseToken
  mutation : MutationReceipt
  deriving DecidableEq, Repr

structure ControlSubmission where
  runId : String
  operationId : String
  action : ControlAction
  deriving DecidableEq, Repr

structure ControlRequest extends ControlSubmission where
  recordedAtMs : Nat
  deriving DecidableEq, Repr

structure ControlReceipt extends ControlRequest where
  replayed : Bool
  deriving DecidableEq, Repr

/-- The first mutation of a run, whose batch is its initial history. -/
def creationMutation (input : CreateOwnedRun) : FencedRunMutation :=
  { lease := { runId := input.runId, ownerId := input.ownerId, generation := 1 },
    operationId := input.operationId, expectedSequence := 0, events := input.initialEvents,
    snapshot := some input.snapshot }

def creationReceipt (input : CreateOwnedRun) : MutationReceipt :=
  { runId := input.runId, operationId := input.operationId, firstSequence := 1,
    lastSequence := input.initialEvents.length, replayed := false }

inductive LoadMode where
  | execution | completeHistory
  deriving DecidableEq, Repr

/-- `snapshotSequence` is present for `snapshot-tail`, absent for `full-replay`;
`events` only in the complete-history mode. -/
structure LoadedRun where
  workflow : WorkflowDefinition
  state : RunState
  eventPrefixDigest : String
  snapshotSequence : Option Nat
  events : Option (List RunEvent)
  deriving DecidableEq, Repr

def assertIdentifier (value label : String) : Except Failure Unit :=
  require (Text.identifier value) (.typeError ("Invalid " ++ label))

def assertTimestamp (value : Nat) (label : String) : Except Failure Unit :=
  require (positive value) (.typeError ("Invalid " ++ label))

def LocalProcessIdentity.valid (identity : LocalProcessIdentity) : Bool :=
  Text.digest identity.hostIdentityDigest && Text.digest identity.bootIdentityDigest &&
    positive identity.pid && !identity.startToken.isEmpty &&
    decide (identity.startToken.utf8ByteSize ≤ 256) &&
    !identity.startToken.toList.contains (Char.ofNat 0)

def assertLocalProcessIdentity (identity : LocalProcessIdentity) : Except Failure Unit :=
  require identity.valid (.typeError "Invalid local process identity")

def assertOwnerId (ownerId : String) : Except Failure Unit :=
  require (Text.uuid ownerId) (.typeError "Invalid owner ID")

/-- Validate a lease token at a trust boundary. -/
def assertRunLeaseToken (token : RunLeaseToken) : Except Failure Unit := do
  assertIdentifier token.runId "run ID"
  assertOwnerId token.ownerId
  require (positive token.generation) (.typeError "Invalid lease generation")

/-- Validate a complete lease record. -/
def assertRunLease (lease : RunLease) : Except Failure Unit := do
  assertRunLeaseToken { runId := lease.runId, ownerId := lease.ownerId,
                        generation := lease.generation }
  assertLocalProcessIdentity lease.owner
  assertTimestamp lease.acquiredAtMs "lease acquisition time"
  assertTimestamp lease.renewedAtMs "lease renewal time"
  assertTimestamp lease.expiresAtMs "lease expiry time"
  require (decide (lease.acquiredAtMs ≤ lease.renewedAtMs) &&
      decide (lease.renewedAtMs ≤ lease.expiresAtMs))
    (.typeError "Invalid lease time ordering")

/-- The event and history digests that the next history entry carries. -/
def extendEventHistoryDigest (hash : Hash) (previous runId : String) (event : RunEvent) :
    String × String :=
  let eventDigest := hash.digestBytes (Json.canonicalJson event.toJson)
  (eventDigest, hash.digestJson (.object [
    ("version", .string "anastom.dev/event-history/v1alpha1"), ("previous", .string previous),
    ("runId", .string runId), ("sequence", JsonValue.nat event.sequence),
    ("eventType", .string event.payload.type), ("eventDigest", .string eventDigest)]))

def extendPrefix (hash : Hash) (previous : String) (events : List RunEvent) : String :=
  events.foldl (fun digest event =>
    (extendEventHistoryDigest hash digest event.runId event).2) previous

/-- Replayed workflow identity and node membership match the definition. -/
def stateMatchesWorkflow (state : RunState) (workflow : WorkflowDefinition) : Bool :=
  state.workflowId == workflow.metadata.id && state.workflowVersion == workflow.metadata.version &&
    decide ((Keyed.keys state.nodes).insertionSort (fun a b => Json.keyLe a b) =
      workflow.nodeOrder.insertionSort fun a b => Json.keyLe a b)

def assertStateMatchesWorkflow (state : RunState) (workflow : WorkflowDefinition) :
    Except Failure Unit :=
  require (stateMatchesWorkflow state workflow)
    (.typeError "Run definition and history disagree")

/-- The snapshot of a folded state. -/
def snapshotOf (hash : Hash) (workflow : WorkflowDefinition) (state : RunState)
    (eventPrefixDigest : String) : RunSnapshot :=
  { runId := state.runId, definitionDigest := hash.digestJson workflow.toJson,
    sequence := state.sequence, state,
    stateDigest := hash.digestBytes (Json.canonicalJson state.toJson), eventPrefixDigest }

/-- Build a snapshot from folded state and its cumulative event-prefix digest. -/
def createRunSnapshotFromState (platform : Platform) (workflow : WorkflowDefinition)
    (state : RunState) (eventPrefixDigest : String) : Except Failure RunSnapshot := do
  require (assertWorkflowDefinition platform.ajv workflow) (.error "Corrupt workflow definition")
  assertStateMatchesWorkflow state workflow
  require (Text.digest eventPrefixDigest) (.typeError "Invalid event-prefix digest")
  require (decide ((Json.canonicalJson state.toJson).utf8ByteSize ≤ runSnapshotMaxBytes))
    (.rangeError "Run snapshot exceeds the 4 MiB limit")
  pure (snapshotOf platform.hash workflow state eventPrefixDigest)

/-- Build the snapshot cache record for an event prefix. -/
def createRunSnapshot (platform : Platform) (workflow : WorkflowDefinition)
    (events : List RunEvent) : Except Failure RunSnapshot := do
  require (assertWorkflowDefinition platform.ajv workflow) (.error "Corrupt workflow definition")
  let state ← replayRun events
  assertStateMatchesWorkflow state workflow
  createRunSnapshotFromState platform workflow state
    (extendPrefix platform.hash platform.hash.emptyEventHistoryDigest events)

def assertRunSnapshot (platform : Platform) (snapshot : RunSnapshot)
    (workflow : WorkflowDefinition) (events : List RunEvent) : Except Failure Unit := do
  let expected ← createRunSnapshot platform workflow events
  require (snapshot.same expected)
    (.typeError "Run snapshot does not match its authoritative event prefix")

/-- Validate an owned-run creation request before any persistence changes. -/
def validateCreateOwnedRun (platform : Platform) (input : CreateOwnedRun) :
    Except Failure Unit := do
  assertIdentifier input.runId "run ID"
  assertOwnerId input.ownerId
  assertLocalProcessIdentity input.owner
  assertIdentifier input.operationId "operation ID"
  require (assertWorkflowDefinition platform.ajv input.workflow)
    (.error "Corrupt workflow definition")
  require (!input.initialEvents.isEmpty)
    (.typeError "Initial event batch must not be empty")
  let state ← replayRun input.initialEvents
  require (state.runId == input.runId) (.typeError "Initial history has a different run ID")
  assertStateMatchesWorkflow state input.workflow
  assertRunSnapshot platform input.snapshot input.workflow input.initialEvents

/-- Validate acquisition identity independent of a concrete store. -/
def validateAcquisition (input : AcquireReleasedRun) : Except Failure Unit := do
  assertIdentifier input.runId "run ID"
  assertOwnerId input.ownerId
  assertLocalProcessIdentity input.owner

/-- The events from offset `index` on carry the run and consecutive sequences. -/
def checkOffsets (runId : String) (expectedSequence : Nat) :
    Nat → List RunEvent → Except Failure Unit
  | _, [] => .ok ()
  | index, event :: rest => do
    let expected := expectedSequence + index + 1
    require (decide (expected ≤ maxSafeInteger) && event.runId == runId &&
        event.sequence == expected)
      (.typeError ("Event at offset " ++ toString index ++ " does not match sequence " ++
        toString expected))
    checkOffsets runId expectedSequence (index + 1) rest

/-- Validate a mutation envelope independent of persisted state. -/
def validateMutation (input : FencedRunMutation) : Except Failure Unit := do
  assertRunLeaseToken input.lease
  assertIdentifier input.operationId "operation ID"
  require (nonnegative input.expectedSequence) (.typeError "Invalid expected sequence")
  require (!input.events.isEmpty) (.typeError "Mutation event batch must not be empty")
  checkOffsets input.lease.runId input.expectedSequence 0 input.events
  match input.handlesControlOperationId with
  | some operationId => assertIdentifier operationId "control operation ID"
  | none => pure ()

/-- The part of a snapshot that identifies it: its digests stand for its state. -/
def RunSnapshot.identity (snapshot : RunSnapshot) : JsonValue :=
  .object [("version", .string "anastom.dev/run-snapshot/v1alpha1"),
    ("reducerVersion", .string "anastom.dev/run-reducer/v1alpha1"),
    ("runId", .string snapshot.runId),
    ("definitionDigest", .string snapshot.definitionDigest),
    ("sequence", JsonValue.nat snapshot.sequence),
    ("stateDigest", .string snapshot.stateDigest),
    ("eventPrefixDigest", .string snapshot.eventPrefixDigest)]

/-- `value ?? null` -/
def orNull (f : α → JsonValue) (value : Option α) : JsonValue := (value.map f).getD .null

/-- The fields of a mutation that its idempotency identity covers. -/
def mutationPayload (input : FencedRunMutation) : JsonValue :=
  .object [("expectedSequence", JsonValue.nat input.expectedSequence),
    ("events", .array (input.events.map RunEvent.toJson)),
    ("snapshot", orNull RunSnapshot.identity input.snapshot),
    ("handlesControlOperationId", orNull .string input.handlesControlOperationId)]

def mutationPayloadDigest (hash : Hash) (input : FencedRunMutation) : String :=
  hash.digestJson (mutationPayload input)

def assertControlLimit (limit : Nat) : Except Failure Unit :=
  require (decide (1 ≤ limit ∧ limit ≤ 100))
    (.rangeError "Control limit must be an integer from 1 through 100")

def validateControlSubmission (input : ControlSubmission) : Except Failure Unit := do
  assertIdentifier input.runId "run ID"
  assertIdentifier input.operationId "operation ID"

def RunLease.token (lease : RunLease) : RunLeaseToken :=
  { runId := lease.runId, ownerId := lease.ownerId, generation := lease.generation }

def validateClock (now : Nat) : Except Failure Nat := do
  assertTimestamp now "store clock"
  pure now

def leaseExpiry (now : Nat) : Except Failure Nat := do
  assertTimestamp (now + runLeaseDurationMs) "lease expiry time"
  pure (now + runLeaseDurationMs)

def nextGeneration (generation : Nat) : Except Failure Nat := do
  require (decide (generation + 1 ≤ maxSafeInteger))
    (.store .corruptStore "Lease generation cannot be advanced safely")
  pure (generation + 1)

def assertAbsentObservation (observedAtMs : Nat) : Except Failure Unit :=
  assertTimestamp observedAtMs "owner observation time"

/-- An event that observes one exact control request. -/
def observesControl (control : ControlRequest) (event : RunEvent) : Bool :=
  match event.payload with
  | .controlRequestObserved operationId action recordedAtMs =>
    operationId == control.operationId && action == control.action &&
      recordedAtMs == control.recordedAtMs
  | _ => false

/-- `events.at(-1)?.sequence ?? 0` -/
def lastSequence (events : List RunEvent) : Nat := (events.getLast?.map RunEvent.sequence).getD 0

/-- The receipt of a first commit. -/
def receiptFor (input : FencedRunMutation) : MutationReceipt :=
  { runId := input.lease.runId, operationId := input.operationId,
    firstSequence := (input.events.head?.map RunEvent.sequence).getD 0,
    lastSequence := lastSequence input.events, replayed := false }

def notFound (runId : String) : Failure :=
  .store .notFound ("Run " ++ runId ++ " was not found")

def staleToken : Failure := .store .ownershipConflict "Lease token is stale"

def expiredLease : Failure := .store .leaseExpired "Lease is released or expired"

/-- The fence of one lease record, as both stores check it. -/
def fenceLease (lease : RunLease) (token : RunLeaseToken) (now : Nat) : Except Failure Unit := do
  require (lease.ownerId == token.ownerId && lease.generation == token.generation) staleToken
  require (!lease.released && decide (now < lease.expiresAtMs)) expiredLease

def RuntimeDescriptor.parsed (descriptor : RuntimeDescriptor) : RuntimeDescriptor :=
  { descriptor with configuration := JsonValue.parsedFields descriptor.configuration }

def NodeRunState.parsed (node : NodeRunState) : NodeRunState :=
  { node with
    output := node.output.map JsonValue.parsed
    command := node.command.map fun command =>
      { command with durationMs := command.durationMs.parsed } }

/-- The state read back from its canonical text. -/
def RunState.parsed (state : RunState) : RunState :=
  { state with
    inputs := JsonValue.parsedFields state.inputs
    nodes := state.nodes.map NodeRunState.parsed
    runtimeDescriptor := state.runtimeDescriptor.map RuntimeDescriptor.parsed }

/-- A store operation: it may throw, and what it changed before it threw stays. -/
def Action (σ α : Type) : Type := σ → Except Failure α × σ

namespace Action
variable {σ α β : Type}

def lift (result : Except Failure α) : Action σ α := fun s => (result, s)

def get : Action σ σ := fun s => (.ok s, s)

def modify (f : σ → σ) : Action σ Unit := fun s => (.ok (), f s)

instance : Monad (Action σ) where
  pure a := fun s => (.ok a, s)
  bind x f := fun s => match x s with
    | (.ok a, s) => f a s
    | (.error failure, s) => (.error failure, s)

theorem pure_run (a : α) (s : σ) : (pure a : Action σ α) s = (.ok a, s) := rfl

theorem get_bind (f : σ → Action σ β) (s : σ) : (get >>= f) s = f s s := rfl

theorem modify_bind (g : σ → σ) (f : Unit → Action σ β) (s : σ) :
    (modify g >>= f) s = f () (g s) := rfl

theorem bind_bind {γ : Type} (x : Action σ α) (g : α → Action σ β) (f : β → Action σ γ) :
    ((x >>= g) >>= f) = x >>= fun a => g a >>= f := by
  funext s
  show (match (match x s with | (.ok a, t) => g a t | (.error e, t) => (.error e, t)) with
    | (.ok b, t) => f b t | (.error e, t) => (.error e, t)) =
    (match x s with | (.ok a, t) => (g a >>= f) t | (.error e, t) => (.error e, t))
  rcases x s with ⟨_ | a, t⟩ <;> rfl

theorem lift_bind (result : Except Failure α) (f : α → Action σ β) (s : σ) :
    (lift result >>= f) s = match result with
      | .ok a => f a s
      | .error failure => (.error failure, s) := by
  cases result <;> rfl

theorem lift_bind_ok {result : Except Failure α} {f : α → Action σ β} {s t : σ} {b : β} :
    (lift result >>= f) s = (.ok b, t) ↔ ∃ a, result = .ok a ∧ f a s = (.ok b, t) := by
  rw [lift_bind]
  cases result <;> simp

theorem bind_ok {x : Action σ α} {f : α → Action σ β} {s t : σ} {b : β} :
    (x >>= f) s = (.ok b, t) ↔ ∃ a u, x s = (.ok a, u) ∧ f a u = (.ok b, t) := by
  show (match x s with | (.ok a, s) => f a s | (.error failure, s) => (.error failure, s)) = _ ↔ _
  rcases x s with ⟨_ | a, u⟩ <;> simp

/-- An operation that throws leaves the stored state as it was. -/
def Atomic (x : Action σ α) : Prop := ∀ s failure t, x s = (.error failure, t) → t = s

theorem atomic_pure (a : α) : Atomic (pure a : Action σ α) := by
  intro s failure t thrown
  cases thrown

theorem atomic_modify (g : σ → σ) (a : α) : Atomic (modify g >>= fun _ => pure a) := by
  intro s failure t thrown
  cases thrown

theorem atomic_lift_bind {result : Except Failure α} {f : α → Action σ β}
    (rest : ∀ a, Atomic (f a)) : Atomic (lift result >>= f) := by
  intro s failure t thrown
  rw [lift_bind] at thrown
  cases result with
  | ok a => exact rest a s failure t thrown
  | error e => cases thrown; rfl

theorem atomic_get_bind {f : σ → Action σ β} (rest : ∀ s, Atomic (f s)) : Atomic (get >>= f) :=
  fun s failure t thrown => rest s s failure t thrown

end Action
end Anastom
