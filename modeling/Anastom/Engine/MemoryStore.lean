import Anastom.Engine.StoreRules

/-! The process-local reference implementation of the durable store contract. An
operation may change the store before it throws: `renew` does. -/
namespace Anastom

structure MemoryMutation where
  operationId : String
  payloadDigest : String
  receipt : MutationReceipt
  deriving DecidableEq, Repr

structure MemoryControl extends ControlRequest where
  acknowledgedSequence : Option Nat
  deriving DecidableEq, Repr

/-- One entry of the store's map; its key is the run id that its lease carries. -/
structure MemoryRun where
  workflow : WorkflowDefinition
  events : List RunEvent
  lease : RunLease
  mutations : List MemoryMutation
  controls : List MemoryControl
  snapshots : List RunSnapshot
  deriving DecidableEq, Repr

instance : Keyed MemoryMutation String := ⟨MemoryMutation.operationId⟩
instance : Keyed MemoryControl String := ⟨fun control => control.operationId⟩
instance : Keyed MemoryRun String := ⟨fun run => run.lease.runId⟩

/-- `InMemoryDurableRunStore.runs` -/
structure MemoryStore where
  runs : List MemoryRun
  deriving DecidableEq, Repr

namespace MemoryStore

def empty : MemoryStore := { runs := [] }

def run? (store : MemoryStore) (runId : String) : Option MemoryRun := Keyed.find store.runs runId

def updateRun (store : MemoryStore) (runId : String) (f : MemoryRun → MemoryRun) : MemoryStore :=
  { store with runs := Keyed.modify store.runs runId f }

def requireRun (store : MemoryStore) (runId : String) : Except Failure MemoryRun :=
  requireSome (store.run? runId) (notFound runId)

variable (platform : Platform)

/-- Create the immutable run, first lease, receipt and snapshot. -/
def createOwned (input : CreateOwnedRun) (clock : Nat) : Action MemoryStore OwnedRunReceipt := do
  .lift (validateCreateOwnedRun platform input)
  let store ← .get
  .lift (require (store.run? input.runId).isNone
    (.store .ownershipConflict ("Run " ++ input.runId ++ " already exists")))
  let now ← .lift (validateClock clock)
  let expiresAtMs ← .lift (leaseExpiry now)
  let lease := grantedLease { runId := input.runId, ownerId := input.ownerId, owner := input.owner }
    1 now expiresAtMs
  let receipt : MutationReceipt :=
    { runId := input.runId, operationId := input.operationId, firstSequence := 1,
      lastSequence := input.initialEvents.length, replayed := false }
  let mutation : FencedRunMutation :=
    { lease := lease.token, operationId := input.operationId, expectedSequence := 0,
      events := input.initialEvents, snapshot := some input.snapshot }
  .modify fun store => { store with runs := store.runs ++ [{
    workflow := input.workflow, events := input.initialEvents, lease,
    mutations := [{ operationId := input.operationId,
                    payloadDigest := mutationPayloadDigest platform.hash mutation, receipt }],
    controls := [], snapshots := [input.snapshot] }] }
  pure { lease := lease.token, mutation := receipt }

/-- Whether a cached snapshot and its tail still give the replayed state. -/
def snapshotCompatible (snapshot : RunSnapshot) (workflow : WorkflowDefinition)
    (events : List RunEvent) (expectedFinalState : RunState) : Bool :=
  match createRunSnapshot platform workflow (events.take snapshot.sequence) with
  | .error _ => false
  | .ok expected => snapshot.same expected &&
      match foldEvents (some snapshot.state.parsed) (events.drop snapshot.sequence) with
      | .ok (some state) => decide (state = expectedFinalState)
      | _ => false

def newestFirst (snapshots : List RunSnapshot) : List RunSnapshot :=
  snapshots.insertionSort fun left right => decide (right.sequence ≤ left.sequence)

/-- Load folded state, and the complete history for inspection. -/
def load (runId : String) (mode : LoadMode) : Action MemoryStore (Option LoadedRun) := do
  .lift (assertIdentifier runId "run ID")
  let store ← .get
  match store.run? runId with
  | none => pure none
  | some run =>
    let state ← .lift (replayRun run.events)
    .lift (assertStateMatchesWorkflow state run.workflow)
    let snapshot ← .lift (createRunSnapshot platform run.workflow run.events)
    let compatible := (newestFirst run.snapshots).find? fun snapshot =>
      snapshotCompatible platform snapshot run.workflow run.events state
    pure (some {
      workflow := run.workflow, state, eventPrefixDigest := snapshot.eventPrefixDigest,
      snapshotSequence := compatible.map RunSnapshot.sequence,
      events := if mode = .completeHistory then some run.events else none })

/-- Return the current lease without changing ownership. -/
def inspectLease (runId : String) : Action MemoryStore (Option RunLease) := do
  .lift (assertIdentifier runId "run ID")
  let store ← .get
  pure ((store.run? runId).map MemoryRun.lease)

/-- Acquire only an explicitly released lease. -/
def acquireReleased (input : AcquireReleasedRun) (clock : Nat) :
    Action MemoryStore RunLeaseToken := do
  .lift (validateAcquisition input)
  let store ← .get
  let run ← .lift (store.requireRun input.runId)
  .lift (require run.lease.released
    (.store .ownershipConflict ("Run " ++ input.runId ++ " is still owned")))
  let now ← .lift (validateClock clock)
  let generation ← .lift (nextGeneration run.lease.generation)
  let expiresAtMs ← .lift (leaseExpiry now)
  let lease := grantedLease input generation now expiresAtMs
  .modify (·.updateRun input.runId fun run => { run with lease })
  pure lease.token

/-- The conditions under which an observed lease may be replaced. -/
def takeoverAllowed (current : RunLease) (input : TakeoverExpiredRun) (now : Nat) :
    Except Failure Unit := do
  require (decide (current = input.observedLease) && !current.released)
    (.store .ownershipConflict "The observed lease is no longer current")
  require (decide (current.expiresAtMs ≤ now))
    (.store .ownershipConflict "The observed lease has not expired")
  require (decide (current.expiresAtMs ≤ input.absentObservedAtMs) &&
      decide (input.absentObservedAtMs ≤ now))
    (.store .ownershipConflict
      "Owner absence was not observed after expiry using the current store clock")

/-- Take over the exact expired lease after an explicit absent-owner observation. -/
def takeoverExpired (input : TakeoverExpiredRun) (clock : Nat) :
    Action MemoryStore RunLeaseToken := do
  .lift (validateAcquisition input.toAcquireReleasedRun)
  .lift (assertRunLease input.observedLease)
  .lift (assertAbsentObservation input.absentObservedAtMs)
  let store ← .get
  let run ← .lift (store.requireRun input.runId)
  let now ← .lift (validateClock clock)
  .lift (takeoverAllowed run.lease input now)
  let generation ← .lift (nextGeneration run.lease.generation)
  let expiresAtMs ← .lift (leaseExpiry now)
  let lease := grantedLease input.toAcquireReleasedRun generation now expiresAtMs
  .modify (·.updateRun input.runId fun run => { run with lease })
  pure lease.token

/-- Extend an active matching lease using the store clock. The renewal time is
written before the new expiry is computed, and stays if that throws. -/
def renew (token : RunLeaseToken) (clock : Nat) : Action MemoryStore RunLease := do
  .lift (assertRunLeaseToken token)
  let store ← .get
  let run ← .lift (store.requireRun token.runId)
  let now ← .lift (validateClock clock)
  .lift (fenceLease run.lease token now)
  let renewed := { run.lease with renewedAtMs := max now run.lease.renewedAtMs }
  .modify (·.updateRun token.runId fun run => { run with lease := renewed })
  let expiresAtMs ← .lift (leaseExpiry renewed.renewedAtMs)
  let lease := { renewed with expiresAtMs }
  .modify (·.updateRun token.runId fun run => { run with lease })
  pure lease

/-- Release the matching current generation; retrying the same release is harmless. -/
def release (token : RunLeaseToken) : Action MemoryStore Unit := do
  .lift (assertRunLeaseToken token)
  let store ← .get
  let run ← .lift (store.requireRun token.runId)
  .lift (require (run.lease.ownerId == token.ownerId && run.lease.generation == token.generation)
    staleToken)
  .modify (·.updateRun token.runId fun run =>
    { run with lease := { run.lease with released := true } })
  pure ()

/-- The acknowledgement a mutation makes: the control and the observing sequence. -/
def validateControlAcknowledgement (controls : List MemoryControl) (input : FencedRunMutation) :
    Except Failure (Option (String × Nat)) :=
  match input.handlesControlOperationId with
  | none => pure none
  | some operationId => do
    let control ← requireSome
      ((Keyed.find controls operationId).filter (·.acknowledgedSequence.isNone))
      (.store .controlConflict "Control is absent or already acknowledged")
    match input.events.filter (observesControl control.toControlRequest) with
    | [event] => pure (some (operationId, event.sequence))
    | _ => .error (.store .controlConflict "Mutation does not observe the exact control")

def acknowledge (controls : List MemoryControl) : Option (String × Nat) → List MemoryControl
  | none => controls
  | some (operationId, sequence) => Keyed.modify controls operationId fun control =>
      { control with acknowledgedSequence := some sequence }

/-- A newer snapshot replaces the one stored for its sequence. -/
def putSnapshot (snapshots : List RunSnapshot) : Option RunSnapshot → List RunSnapshot
  | none => snapshots
  | some snapshot =>
    (snapshots.filter fun value => value.sequence != snapshot.sequence) ++ [snapshot]

/-- The checks of a first commit, ending in the acknowledgement it makes. -/
def checkAppend (run : MemoryRun) (input : FencedRunMutation) :
    Except Failure (Option (String × Nat)) := do
  require (lastSequence run.events == input.expectedSequence)
    (.store .sequenceConflict ("Run is at sequence " ++ toString (lastSequence run.events) ++
      "; expected " ++ toString input.expectedSequence))
  let state ← replayRun (run.events ++ input.events)
  assertStateMatchesWorkflow state run.workflow
  match input.snapshot with
  | some snapshot =>
    assertRunSnapshot platform snapshot run.workflow (run.events ++ input.events)
  | none => pure ()
  validateControlAcknowledgement run.controls input

/-- The run record after the effects of a first commit. -/
def appended (input : FencedRunMutation) (acknowledgement : Option (String × Nat))
    (run : MemoryRun) : MemoryRun :=
  { run with
    events := run.events ++ input.events
    snapshots := putSnapshot run.snapshots input.snapshot
    controls := acknowledge run.controls acknowledgement
    mutations := run.mutations ++ [{
      operationId := input.operationId
      payloadDigest := mutationPayloadDigest platform.hash input
      receipt := receiptFor input }] }

/-- Commit a fenced idempotent event batch, optional snapshot and acknowledgement. -/
def commit (input : FencedRunMutation) (clock : Nat) : Action MemoryStore MutationReceipt := do
  .lift (validateMutation input)
  let store ← .get
  let run ← .lift (store.requireRun input.lease.runId)
  let now ← .lift (validateClock clock)
  .lift (fenceLease run.lease input.lease now)
  match Keyed.find run.mutations input.operationId with
  | some prior => do
    .lift (require (prior.payloadDigest == mutationPayloadDigest platform.hash input)
      (.store .idempotencyConflict "Operation payload changed on retry"))
    pure { prior.receipt with replayed := true }
  | none => do
    let acknowledgement ← .lift (checkAppend platform run input)
    .modify (·.updateRun input.lease.runId (appended platform input acknowledgement))
    pure (receiptFor input)

/-- Persist or idempotently replay an operator pause or cancel request. -/
def submitControl (input : ControlSubmission) (clock : Nat) :
    Action MemoryStore ControlReceipt := do
  .lift (validateControlSubmission input)
  let store ← .get
  let run ← .lift (store.requireRun input.runId)
  match Keyed.find run.controls input.operationId with
  | some prior => do
    .lift (require (prior.action == input.action)
      (.store .controlConflict "Control action changed on retry"))
    pure { prior.toControlRequest with replayed := true }
  | none => do
    let recordedAtMs ← .lift (validateClock clock)
    let control : ControlRequest := { input with recordedAtMs }
    .modify (·.updateRun input.runId fun run => { run with
      controls := run.controls ++ [{ control with acknowledgedSequence := none }] })
    pure { control with replayed := false }

/-- Primary weight of an identifier character in root collation. -/
def collationPrimary (c : Char) : Nat :=
  if c = '_' then 0 else if c = '-' then 1 else if c = '.' then 2
  else if c.isDigit then 3 + (c.toNat - '0'.toNat)
  else 13 + (c.toLower.toNat - 'a'.toNat)

/-- Lowercase sorts before uppercase among otherwise equal texts. -/
def collationTertiary (c : Char) : Nat := if c.isUpper then 1 else 0

/-- `left.localeCompare(right) <= 0` for identifiers. -/
def localeLe (left right : String) : Bool :=
  let primary (s : String) := s.toList.map collationPrimary
  let tertiary (s : String) := s.toList.map collationTertiary
  if primary left = primary right then decide (tertiary left ≤ tertiary right)
  else decide (primary left ≤ primary right)

def controlLe (left right : ControlRequest) : Bool :=
  decide (left.recordedAtMs < right.recordedAtMs) ||
    (decide (left.recordedAtMs = right.recordedAtMs) &&
      localeLe left.operationId right.operationId)

/-- Return unacknowledged controls oldest first, bounded to at most 100. -/
def pendingControls (runId : String) (limit : Nat) : Action MemoryStore (List ControlRequest) := do
  .lift (assertIdentifier runId "run ID")
  .lift (assertControlLimit limit)
  let store ← .get
  let run ← .lift (store.requireRun runId)
  pure ((((run.controls.filter (·.acknowledgedSequence.isNone)).map
    MemoryControl.toControlRequest).insertionSort fun a b => controlLe a b).take limit)

end MemoryStore
end Anastom
