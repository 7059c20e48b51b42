import Anastom.Engine.DurableStore

/-! The SQLite implementation of the durable store contract: its tables, their
constraints, and the statements each operation runs inside one transaction. A
JSON column is given by the value whose canonical text it holds; reading it
parses that text. -/
namespace Anastom

structure RunRow where
  runId : String
  workflowDigest : String
  workflow : WorkflowDefinition
  deriving DecidableEq, Repr

structure EventRow where
  runId : String
  sequence : Nat
  eventType : String
  event : RunEvent
  deriving DecidableEq, Repr

structure IntegrityRow where
  runId : String
  sequence : Nat
  eventDigest : String
  historyDigest : String
  deriving DecidableEq, Repr

structure LeaseRow extends RunLease where
  ownerDigest : String
  deriving DecidableEq, Repr

structure MutationRow where
  runId : String
  operationId : String
  generation : Nat
  payloadDigest : String
  expectedSequence : Nat
  firstSequence : Nat
  lastSequence : Nat
  committedAtMs : Nat
  deriving DecidableEq, Repr

structure SnapshotRow extends RunSnapshot where
  createdAtMs : Nat
  deriving DecidableEq, Repr

structure ControlRow extends ControlRequest where
  acknowledgedSequence : Option Nat
  deriving DecidableEq, Repr

structure SqliteStore where
  runs : List RunRow
  events : List EventRow
  eventIntegrity : List IntegrityRow
  runLeases : List LeaseRow
  runMutations : List MutationRow
  runSnapshots : List SnapshotRow
  controlRequests : List ControlRow
  deriving DecidableEq, Repr

/-- `length(x) = 71 AND x GLOB 'sha256:*'` -/
def digestColumn (s : String) : Bool :=
  s.toList.length == 71 && s.toList.take 7 == ['s', 'h', 'a', '2', '5', '6', ':']

/-- `length(x) BETWEEN 1 AND 128` -/
def shortText (s : String) : Bool := boundedText 1 128 s

def LeaseRow.check (row : LeaseRow) : Bool :=
  shortText row.ownerId && digestColumn row.ownerDigest && decide (0 < row.generation) &&
    decide (0 < row.acquiredAtMs) && decide (row.acquiredAtMs ≤ row.renewedAtMs) &&
    decide (row.renewedAtMs ≤ row.expiresAtMs)

def MutationRow.check (row : MutationRow) : Bool :=
  shortText row.operationId && decide (0 < row.generation) && digestColumn row.payloadDigest &&
    decide (0 < row.firstSequence) && decide (row.firstSequence ≤ row.lastSequence) &&
    decide (0 < row.committedAtMs)

def IntegrityRow.check (row : IntegrityRow) : Bool :=
  decide (0 < row.sequence) && digestColumn row.eventDigest && digestColumn row.historyDigest

def SnapshotRow.check (row : SnapshotRow) : Bool :=
  decide (0 < row.sequence) && digestColumn row.definitionDigest &&
    digestColumn row.eventPrefixDigest && digestColumn row.stateDigest &&
    decide (row.stateJson.utf8ByteSize ≤ 4194304) && decide (0 < row.createdAtMs)

def ControlRow.check (row : ControlRow) : Bool :=
  shortText row.operationId && decide (0 < row.recordedAtMs)

-- Primary keys.
instance : Keyed RunRow String := ⟨RunRow.runId⟩
instance : Keyed EventRow (String × Nat) := ⟨fun row => (row.runId, row.sequence)⟩
instance : Keyed IntegrityRow (String × Nat) := ⟨fun row => (row.runId, row.sequence)⟩
instance : Keyed LeaseRow String := ⟨fun row => row.runId⟩
instance : Keyed MutationRow (String × String) := ⟨fun row => (row.runId, row.operationId)⟩
instance : Keyed ControlRow (String × String) := ⟨fun row => (row.runId, row.operationId)⟩

namespace SqliteStore

def sqliteError : Failure := .store .corruptStore "Durable store transaction failed"

def empty : SqliteStore :=
  { runs := [], events := [], eventIntegrity := [], runLeases := [], runMutations := [],
    runSnapshots := [], controlRequests := [] }

def runExists (db : SqliteStore) (runId : String) : Bool := (Keyed.find db.runs runId).isSome

def eventExists (db : SqliteStore) (runId : String) (sequence : Nat) : Bool :=
  (Keyed.find db.events (runId, sequence)).isSome

def insertRun (row : RunRow) : Action SqliteStore Unit := do
  let db ← .get
  .lift (require (!db.runExists row.runId) sqliteError)
  .modify fun db => { db with runs := db.runs ++ [row] }

def insertEvent (row : EventRow) : Action SqliteStore Unit := do
  let db ← .get
  .lift (require (decide (0 < row.sequence) && db.runExists row.runId &&
    !db.eventExists row.runId row.sequence) sqliteError)
  .modify fun db => { db with events := db.events ++ [row] }

def insertIntegrity (row : IntegrityRow) : Action SqliteStore Unit := do
  let db ← .get
  .lift (require (row.check && db.eventExists row.runId row.sequence &&
    (Keyed.find db.eventIntegrity (row.runId, row.sequence)).isNone) sqliteError)
  .modify fun db => { db with eventIntegrity := db.eventIntegrity ++ [row] }

def insertLease (row : LeaseRow) : Action SqliteStore Unit := do
  let db ← .get
  .lift (require (row.check && db.runExists row.runId &&
    (Keyed.find db.runLeases row.runId).isNone) sqliteError)
  .modify fun db => { db with runLeases := db.runLeases ++ [row] }

/-- `UPDATE run_leases SET ... WHERE run_id=?`, with its CHECK constraints. -/
def updateLease (runId : String) (f : LeaseRow → LeaseRow) : Action SqliteStore Unit := do
  let db ← .get
  .lift (require (db.runLeases.all fun row => row.runId != runId || (f row).check) sqliteError)
  .modify fun db => { db with runLeases := Keyed.modify db.runLeases runId f }

def insertMutationRow (row : MutationRow) : Action SqliteStore Unit := do
  let db ← .get
  .lift (require (row.check && db.runExists row.runId &&
    db.eventExists row.runId row.firstSequence && db.eventExists row.runId row.lastSequence &&
    (Keyed.find db.runMutations (row.runId, row.operationId)).isNone) sqliteError)
  .modify fun db => { db with runMutations := db.runMutations ++ [row] }

/-- `INSERT OR REPLACE` on the key of run, sequence and reducer version. -/
def insertSnapshot (snapshot : RunSnapshot) (now : Nat) : Action SqliteStore Unit := do
  let row : SnapshotRow := { snapshot with createdAtMs := now }
  let db ← .get
  .lift (require (row.check && db.runExists row.runId) sqliteError)
  .modify fun db => { db with
    runSnapshots := (db.runSnapshots.filter fun other =>
      !(other.runId == row.runId && other.sequence == row.sequence)) ++ [row] }

def insertControl (row : ControlRow) : Action SqliteStore Unit := do
  let db ← .get
  .lift (require (row.check && db.runExists row.runId &&
    (Keyed.find db.controlRequests (row.runId, row.operationId)).isNone) sqliteError)
  .modify fun db => { db with controlRequests := db.controlRequests ++ [row] }

/-- The acknowledgement update, guarded by its trigger and foreign key. -/
def acknowledgeControl (runId operationId : String) (sequence : Nat) :
    Action SqliteStore Unit := do
  let db ← .get
  .lift (require (decide (0 < sequence) &&
    ((Keyed.find db.controlRequests (runId, operationId)).filter
      (·.acknowledgedSequence.isNone)).all fun row =>
        (Keyed.find db.events (runId, sequence)).any fun event =>
          observesControl row.toControlRequest event.event) sqliteError)
  .modify fun db => { db with
    controlRequests := Keyed.modify db.controlRequests (runId, operationId) fun row =>
      if row.acknowledgedSequence.isNone then { row with acknowledgedSequence := some sequence }
      else row }

variable (platform : Platform)

def leaseFromRow (row : LeaseRow) : Except Failure RunLease := do
  require (platform.hash.digestJson row.owner.toJson == row.ownerDigest)
    (.typeError "Invalid lease row")
  assertLocalProcessIdentity row.owner
  assertRunLease row.toRunLease
  pure row.toRunLease

/-- `asStoreError`: a store failure keeps its code, any other becomes `corrupt-store`. -/
def asStoreError (message : String) (result : Except Failure α) : Except Failure α :=
  match result with
  | .ok a => .ok a
  | .error (.store code text) => .error (.store code text)
  | .error _ => .error (.store .corruptStore message)

def readLease (db : SqliteStore) (runId : String) : Except Failure (Option RunLease) :=
  match Keyed.find db.runLeases runId with
  | none => .ok none
  | some row => (asStoreError ("Invalid lease for run " ++ runId)
      (leaseFromRow platform row)).map some

def requireFence (db : SqliteStore) (token : RunLeaseToken) (now : Nat) :
    Except Failure RunLease := do
  let lease ← readLease platform db token.runId
  let lease ← requireSome lease (if db.runExists token.runId
    then .store .ownershipConflict "Run has no matching lease" else notFound token.runId)
  fenceLease lease token now
  pure lease

structure AuthoritativeRun where
  workflow : WorkflowDefinition
  definitionDigest : String
  events : List RunEvent
  state : RunState
  historyDigests : List String
  deriving DecidableEq, Repr

def parseEventRow (runId : String) (row : EventRow) : Except Failure RunEvent := do
  let event := row.event.parsed
  assertRunEvent event
  require (event.runId == runId && event.sequence == row.sequence &&
    event.payload.type == row.eventType) (.typeError "Event row identity mismatch")
  pure event

def parseEventRows (runId : String) : List EventRow → Except Failure (List RunEvent)
  | [] => .ok []
  | row :: rest => do
    let event ← parseEventRow runId row
    let events ← parseEventRows runId rest
    pure (event :: events)

/-- Walks the history with its integrity rows: every event digest chains on the
previous one, and coverage has no gap once it starts. -/
def integrityDigests (runId : String) (rows : List IntegrityRow) :
    String → Bool → List EventRow → Except Failure (List String)
  | _, _, [] => .ok []
  | previous, coverageStarted, event :: rest => do
    let expected := extendEventHistoryDigest platform.hash previous runId
      { event.event with sequence := event.sequence }
    let stored := rows.find? (·.sequence == event.sequence)
    require (match stored with
        | some row => row.eventDigest == expected.1 && row.historyDigest == expected.2
        | none => !coverageStarted)
      (.error "Event integrity digest mismatch or gap")
    let digests ← integrityDigests runId rows expected.2 (coverageStarted || stored.isSome) rest
    pure (expected.2 :: digests)

def validateIntegrity (db : SqliteStore) (runId : String) (events : List EventRow) :
    Except Failure (List String) := do
  let rows := db.eventIntegrity.filter (·.runId == runId)
  let digests ← integrityDigests platform runId rows platform.hash.emptyEventHistoryDigest
    false events
  require (rows.all fun row => events.any fun event => event.sequence == row.sequence)
    (.error "Event integrity refers to absent history")
  pure digests

/-- `SELECT ... FROM events WHERE run_id=? ORDER BY sequence` -/
def eventRows (db : SqliteStore) (runId : String) : List EventRow :=
  (db.events.filter (·.runId == runId)).insertionSort fun a b => decide (a.sequence ≤ b.sequence)

def readAuthoritativeRun (db : SqliteStore) (runId : String) :
    Except Failure (Option AuthoritativeRun) :=
  match Keyed.find db.runs runId with
  | none => .ok none
  | some row => do
    require (platform.hash.digestJson row.workflow.toJson == row.workflowDigest)
      (.error "Workflow bytes or digest are corrupt")
    let workflow := row.workflow.parsed
    require (assertWorkflowDefinition platform.ajv workflow)
      (.error "Corrupt workflow definition")
    let rows := db.eventRows runId
    let events ← parseEventRows runId rows
    let state ← replayRun events
    assertStateMatchesWorkflow state workflow
    let historyDigests ← validateIntegrity platform db runId rows
    pure (some { workflow, definitionDigest := row.workflowDigest, events, state,
                 historyDigests })

def snapshotFromRow (row : SnapshotRow) : Option RunSnapshot :=
  if positive row.sequence && decide (row.stateJson.utf8ByteSize ≤ runSnapshotMaxBytes)
  then some row.toRunSnapshot else none

def snapshotCompatible (snapshot : RunSnapshot) (run : AuthoritativeRun) : Bool :=
  snapshot.definitionDigest == run.definitionDigest &&
    decide (snapshot.sequence ≤ run.events.length) &&
    run.historyDigests[snapshot.sequence - 1]? == some snapshot.eventPrefixDigest &&
    platform.hash.digestBytes snapshot.stateJson == snapshot.stateDigest &&
    Json.canonicalJson snapshot.state.parsed.toJson == snapshot.stateJson &&
    (match assertRunSnapshot platform snapshot run.workflow
        (run.events.take snapshot.sequence) with
      | .ok _ => true
      | .error _ => false) &&
    match foldEvents (some snapshot.state.parsed) (run.events.drop snapshot.sequence) with
    | .ok (some state) => decide (state = run.state)
    | _ => false

/-- The newest stored snapshot that the authoritative history confirms. -/
def selectSnapshot (db : SqliteStore) (run : AuthoritativeRun) : Option RunSnapshot :=
  let rows := (db.runSnapshots.filter (·.runId == run.state.runId)).insertionSort
    fun a b => decide (b.sequence ≤ a.sequence)
  (rows.filterMap snapshotFromRow).find? fun snapshot => snapshotCompatible platform snapshot run

def controlFromRow (row : ControlRow) : Except Failure ControlRequest :=
  asStoreError "Invalid control request row" do
    validateControlSubmission row.toControlSubmission
    assertTimestamp row.recordedAtMs "control timestamp"
    require (row.acknowledgedSequence.all positive)
      (.typeError "Invalid control acknowledgement sequence")
    pure row.toControlRequest

def controlsFromRows : List ControlRow → Except Failure (List ControlRequest)
  | [] => .ok []
  | row :: rest => do
    let control ← controlFromRow row
    let controls ← controlsFromRows rest
    pure (control :: controls)

def assertMutationRow (row : MutationRow) : Except Failure Unit :=
  require (positive row.generation && Text.digest row.payloadDigest &&
      nonnegative row.expectedSequence && positive row.firstSequence &&
      row.firstSequence == row.expectedSequence + 1 && positive row.lastSequence &&
      decide (row.firstSequence ≤ row.lastSequence) && positive row.committedAtMs)
    (.store .corruptStore "Invalid mutation receipt row")

/-- `BEGIN IMMEDIATE`, then `COMMIT`, or `ROLLBACK` and rethrow. -/
def writeTransaction (operation : Action SqliteStore α) : Action SqliteStore α := fun db =>
  match operation db with
  | (.ok a, next) => (.ok a, next)
  | (.error failure, _) => (.error failure, db)

def insertEvents (runId : String) : List RunEvent → List String →
    Action SqliteStore (List String)
  | [], historyDigests => pure historyDigests
  | event :: rest, historyDigests => do
    .lift (assertRunEvent event)
    let previous := historyDigests.getLast?.getD platform.hash.emptyEventHistoryDigest
    let integrity := extendEventHistoryDigest platform.hash previous runId event
    insertEvent { runId, sequence := event.sequence, eventType := event.payload.type, event }
    insertIntegrity { runId, sequence := event.sequence, eventDigest := integrity.1,
                      historyDigest := integrity.2 }
    insertEvents runId rest (historyDigests ++ [integrity.2])

def insertMutation (input : FencedRunMutation) (payloadDigest : String)
    (receipt : MutationReceipt) (now : Nat) : Action SqliteStore Unit :=
  insertMutationRow { runId := input.lease.runId, operationId := input.operationId,
                      generation := input.lease.generation, payloadDigest,
                      expectedSequence := input.expectedSequence,
                      firstSequence := receipt.firstSequence,
                      lastSequence := receipt.lastSequence, committedAtMs := now }

/-- Create immutable history, generation-one ownership, integrity and snapshot. -/
def createOwned (input : CreateOwnedRun) (clock : Nat) : Action SqliteStore OwnedRunReceipt := do
  .lift (validateCreateOwnedRun platform input)
  writeTransaction do
    let db ← .get
    .lift (require (!db.runExists input.runId)
      (.store .ownershipConflict ("Run " ++ input.runId ++ " already exists")))
    let now ← .lift (validateClock clock)
    insertRun { runId := input.runId, workflow := input.workflow,
                workflowDigest := platform.hash.digestJson input.workflow.toJson }
    let historyDigests ← insertEvents platform input.runId input.initialEvents []
    let expiresAtMs ← .lift (leaseExpiry now)
    insertLease { runId := input.runId, ownerId := input.ownerId, owner := input.owner,
                  generation := 1, acquiredAtMs := now, renewedAtMs := now, expiresAtMs,
                  released := false,
                  ownerDigest := platform.hash.digestJson input.owner.toJson }
    let lease : RunLeaseToken :=
      { runId := input.runId, ownerId := input.ownerId, generation := 1 }
    let mutation : FencedRunMutation :=
      { lease, operationId := input.operationId, expectedSequence := 0,
        events := input.initialEvents, snapshot := some input.snapshot }
    let receipt : MutationReceipt :=
      { runId := input.runId, operationId := input.operationId, firstSequence := 1,
        lastSequence := input.initialEvents.length, replayed := false }
    .lift (validateMutation mutation)
    insertMutation mutation (mutationPayloadDigest platform.hash mutation) receipt now
    insertSnapshot input.snapshot now
    .lift (require (historyDigests.getLast? == some input.snapshot.eventPrefixDigest)
      (.store .corruptStore "Initial snapshot history digest disagrees"))
    pure { lease, mutation := receipt }

/-- Load folded state, and the complete history for inspection. -/
def load (runId : String) (mode : LoadMode) : Action SqliteStore (Option LoadedRun) := do
  .lift (assertIdentifier runId "run ID")
  let db ← .get
  .lift (asStoreError ("Could not load run " ++ runId) do
    let run ← readAuthoritativeRun platform db runId
    pure (run.map fun run => {
      workflow := run.workflow, state := run.state,
      eventPrefixDigest := run.historyDigests.getLast?.getD platform.hash.emptyEventHistoryDigest,
      snapshotSequence := (selectSnapshot platform db run).map RunSnapshot.sequence,
      events := if mode = .completeHistory then some run.events else none }))

/-- Inspect current ownership without acquiring, renewing or releasing it. -/
def inspectLease (runId : String) : Action SqliteStore (Option RunLease) := do
  .lift (assertIdentifier runId "run ID")
  let db ← .get
  .lift (readLease platform db runId)

/-- Write the columns of a new grant. -/
def grantLease (input : AcquireReleasedRun) (generation now expiresAtMs : Nat) :
    Action SqliteStore Unit :=
  updateLease input.runId fun row => { row with
    ownerId := input.ownerId, owner := input.owner,
    ownerDigest := platform.hash.digestJson input.owner.toJson, generation,
    acquiredAtMs := now, renewedAtMs := now, expiresAtMs, released := false }

/-- Acquire an explicitly released lease. -/
def acquireReleased (input : AcquireReleasedRun) (clock : Nat) :
    Action SqliteStore RunLeaseToken := do
  .lift (validateAcquisition input)
  writeTransaction do
    let db ← .get
    .lift (require (db.runExists input.runId) (notFound input.runId))
    let existing ← .lift (readLease platform db input.runId)
    let existing ← .lift (requireSome existing
      (.store .corruptStore ("Run " ++ input.runId ++ " has no ownership record")))
    .lift (require existing.released
      (.store .ownershipConflict ("Run " ++ input.runId ++ " is still owned")))
    let now ← .lift (validateClock clock)
    let generation ← .lift (nextGeneration existing.generation)
    let expiresAtMs ← .lift (leaseExpiry now)
    grantLease platform input generation now expiresAtMs
    pure { runId := input.runId, ownerId := input.ownerId, generation }

/-- The conditions under which an observed lease may be replaced. -/
def takeoverAllowed (current : Option RunLease) (input : TakeoverExpiredRun) (now : Nat) :
    Except Failure RunLease := do
  let current ← requireSome (current.filter fun current =>
      !current.released && decide (current = input.observedLease))
    (.store .ownershipConflict "The observed lease is no longer current")
  require (decide (current.expiresAtMs ≤ now))
    (.store .ownershipConflict "The observed lease has not expired")
  require (decide (current.expiresAtMs ≤ input.absentObservedAtMs) &&
      decide (input.absentObservedAtMs ≤ now))
    (.store .ownershipConflict
      "Owner absence was not observed after expiry using the current store clock")
  pure current

/-- Replace the exact expired lease after independently observing owner absence. -/
def takeoverExpired (input : TakeoverExpiredRun) (clock : Nat) :
    Action SqliteStore RunLeaseToken := do
  .lift (validateAcquisition input.toAcquireReleasedRun)
  .lift (assertRunLease input.observedLease)
  .lift (assertAbsentObservation input.absentObservedAtMs)
  writeTransaction do
    let db ← .get
    .lift (require (db.runExists input.runId) (notFound input.runId))
    let current ← .lift (readLease platform db input.runId)
    let now ← .lift (validateClock clock)
    let current ← .lift (takeoverAllowed current input now)
    let generation ← .lift (nextGeneration current.generation)
    let expiresAtMs ← .lift (leaseExpiry now)
    grantLease platform input.toAcquireReleasedRun generation now expiresAtMs
    pure { runId := input.runId, ownerId := input.ownerId, generation }

/-- Renew a current, unexpired lease using one store-assigned transaction time. -/
def renew (token : RunLeaseToken) (clock : Nat) : Action SqliteStore RunLease := do
  .lift (assertRunLeaseToken token)
  writeTransaction do
    let now ← .lift (validateClock clock)
    let db ← .get
    let lease ← .lift (requireFence platform db token now)
    let renewedAtMs := max now lease.renewedAtMs
    let expiresAtMs ← .lift (leaseExpiry renewedAtMs)
    updateLease token.runId fun row => { row with renewedAtMs, expiresAtMs }
    pure { lease with renewedAtMs, expiresAtMs }

/-- Release the matching current generation; retrying that release is idempotent. -/
def release (token : RunLeaseToken) : Action SqliteStore Unit := do
  .lift (assertRunLeaseToken token)
  writeTransaction do
    let db ← .get
    let lease ← .lift (readLease platform db token.runId)
    let lease ← .lift (requireSome lease (if db.runExists token.runId
      then .store .ownershipConflict "Run has no matching lease" else notFound token.runId))
    .lift (require (lease.ownerId == token.ownerId && lease.generation == token.generation)
      staleToken)
    if lease.released then pure ()
    else updateLease token.runId fun row => { row with released := true }

def validateControlAcknowledgement (db : SqliteStore) (input : FencedRunMutation) :
    Except Failure (Option Nat) :=
  match input.handlesControlOperationId with
  | none => pure none
  | some operationId => do
    let row ← requireSome
      ((Keyed.find db.controlRequests (input.lease.runId, operationId)).filter
        (·.acknowledgedSequence.isNone))
      (.store .controlConflict "Control is absent or already acknowledged")
    let control ← controlFromRow row
    match input.events.filter (observesControl control) with
    | [event] => pure (some event.sequence)
    | _ => .error (.store .controlConflict "Mutation does not observe the exact control")

/-- The checks of a first commit, ending in the history digests it extends and the
acknowledgement it makes. -/
def checkAppend (db : SqliteStore) (input : FencedRunMutation) :
    Except Failure (List String × Option Nat) := do
  let run ← asStoreError "Authoritative run history is corrupt"
    (readAuthoritativeRun platform db input.lease.runId)
  let run ← requireSome run (notFound input.lease.runId)
  require (lastSequence run.events == input.expectedSequence)
    (.store .sequenceConflict ("Run is at sequence " ++ toString (lastSequence run.events) ++
      "; expected " ++ toString input.expectedSequence))
  let state ← replayRun (run.events ++ input.events)
  assertStateMatchesWorkflow state run.workflow
  match input.snapshot with
  | some snapshot =>
    assertRunSnapshot platform snapshot run.workflow (run.events ++ input.events)
  | none => pure ()
  let acknowledgement ← validateControlAcknowledgement db input
  pure (run.historyDigests, acknowledgement)

/-- Commit an idempotent fenced event batch and its effects atomically. -/
def commit (input : FencedRunMutation) (clock : Nat) : Action SqliteStore MutationReceipt := do
  .lift (validateMutation input)
  writeTransaction do
    let now ← .lift (validateClock clock)
    let db ← .get
    let _ ← .lift (requireFence platform db input.lease now)
    let payloadDigest := mutationPayloadDigest platform.hash input
    match Keyed.find db.runMutations (input.lease.runId, input.operationId) with
    | some prior => do
      .lift (assertMutationRow prior)
      .lift (require (prior.payloadDigest == payloadDigest)
        (.store .idempotencyConflict "Operation payload changed on retry"))
      pure { runId := input.lease.runId, operationId := input.operationId,
             firstSequence := prior.firstSequence, lastSequence := prior.lastSequence,
             replayed := true }
    | none => do
      let (historyDigests, acknowledgement) ← .lift (checkAppend platform db input)
      let _ ← insertEvents platform input.lease.runId input.events historyDigests
      let receipt := receiptFor input
      insertMutation input payloadDigest receipt now
      match input.snapshot with
      | some snapshot => insertSnapshot snapshot now
      | none => pure ()
      match input.handlesControlOperationId, acknowledgement with
      | some operationId, some sequence =>
        acknowledgeControl input.lease.runId operationId sequence
      | _, _ => pure ()
      pure receipt

/-- Submit an idempotent operator request without touching the current lease. -/
def submitControl (input : ControlSubmission) (clock : Nat) :
    Action SqliteStore ControlReceipt := do
  .lift (validateControlSubmission input)
  writeTransaction do
    let db ← .get
    .lift (require (db.runExists input.runId) (notFound input.runId))
    match Keyed.find db.controlRequests (input.runId, input.operationId) with
    | some prior => do
      let control ← .lift (controlFromRow prior)
      .lift (require (control.action == input.action)
        (.store .controlConflict "Control action changed on retry"))
      pure { control with replayed := true }
    | none => do
      let recordedAtMs ← .lift (validateClock clock)
      let control : ControlRequest := { input with recordedAtMs }
      insertControl { control with acknowledgedSequence := none }
      pure { control with replayed := false }

/-- The `BINARY` collation: bytes of the text, here all ASCII. -/
def binaryLe (left right : String) : Bool :=
  decide (left.toList.map Char.toNat ≤ right.toList.map Char.toNat)

/-- `ORDER BY recorded_at_ms,operation_id` -/
def rowLe (left right : ControlRow) : Bool :=
  decide (left.recordedAtMs < right.recordedAtMs) ||
    (decide (left.recordedAtMs = right.recordedAtMs) && binaryLe left.operationId right.operationId)

/-- Return unacknowledged controls oldest first with at most 100 results. -/
def pendingControls (runId : String) (limit : Nat) :
    Action SqliteStore (List ControlRequest) := do
  .lift (assertIdentifier runId "run ID")
  .lift (assertControlLimit limit)
  let db ← .get
  .lift (require (db.runExists runId) (notFound runId))
  .lift (asStoreError ("Invalid controls for run " ++ runId) (controlsFromRows
    (((db.controlRequests.filter fun row =>
      row.runId == runId && row.acknowledgedSequence.isNone).insertionSort
        fun a b => rowLe a b).take limit)))

end SqliteStore
end Anastom
