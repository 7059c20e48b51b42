import Anastom.Engine.MemoryOperations
import Anastom.Persistence.StoreContract

/-! What each operation of the SQLite store writes when it succeeds. Every one of
them runs in a transaction, so one that throws changes nothing. -/
namespace Anastom.SqliteStore

theorem writeTransaction_ok {α : Type} {operation : Action SqliteStore α} {db next : SqliteStore}
    {a : α} : writeTransaction operation db = (.ok a, next) ↔ operation db = (.ok a, next) := by
  unfold writeTransaction
  rcases operation db with ⟨_ | b, t⟩ <;> simp

theorem writeTransaction_atomic {α : Type} (operation : Action SqliteStore α) :
    Action.Atomic (writeTransaction operation) := by
  intro db failure next thrown
  unfold writeTransaction at thrown
  split at thrown <;> simp_all

section Statements
variable {β : Type} {db next : SqliteStore} {b : β} {f : Unit → Action SqliteStore β}

theorem insertRun_bind_ok {row : RunRow} : (insertRun row >>= f) db = (.ok b, next) ↔
    db.runExists row.runId = false ∧
      f () { db with runs := db.runs ++ [row] } = (.ok b, next) := by
  simp only [insertRun, Action.bind_bind, Action.get_bind, Action.lift_bind_ok,
    Action.modify_bind, require_ok, Bool.not_eq_true', exists_const]

theorem insertEvent_bind_ok {row : EventRow} : (insertEvent row >>= f) db = (.ok b, next) ↔
    (0 < row.sequence ∧ db.runExists row.runId = true ∧
      db.eventExists row.runId row.sequence = false) ∧
      f () { db with events := db.events ++ [row] } = (.ok b, next) := by
  simp only [insertEvent, Action.bind_bind, Action.get_bind, Action.lift_bind_ok,
    Action.modify_bind, require_ok, Bool.and_eq_true, decide_eq_true_eq, Bool.not_eq_true',
    and_assoc, exists_const]

theorem insertIntegrity_bind_ok {row : IntegrityRow} :
    (insertIntegrity row >>= f) db = (.ok b, next) ↔
    (row.check = true ∧ db.eventExists row.runId row.sequence = true ∧
      Keyed.find db.eventIntegrity (row.runId, row.sequence) = none) ∧
      f () { db with eventIntegrity := db.eventIntegrity ++ [row] } = (.ok b, next) := by
  simp only [insertIntegrity, Action.bind_bind, Action.get_bind, Action.lift_bind_ok,
    Action.modify_bind, require_ok, Bool.and_eq_true, Option.isNone_iff_eq_none, and_assoc,
    exists_const]

theorem insertLease_bind_ok {row : LeaseRow} : (insertLease row >>= f) db = (.ok b, next) ↔
    (row.check = true ∧ db.runExists row.runId = true ∧
      Keyed.find db.runLeases row.runId = none) ∧
      f () { db with runLeases := db.runLeases ++ [row] } = (.ok b, next) := by
  simp only [insertLease, Action.bind_bind, Action.get_bind, Action.lift_bind_ok,
    Action.modify_bind, require_ok, Bool.and_eq_true, Option.isNone_iff_eq_none, and_assoc,
    exists_const]

/-- The CHECK constraints of the rows that a lease update rewrites. -/
def leaseUpdateAllowed (db : SqliteStore) (runId : String) (g : LeaseRow → LeaseRow) : Bool :=
  db.runLeases.all fun row => row.runId != runId || (g row).check

theorem updateLease_bind_ok {runId : String} {g : LeaseRow → LeaseRow} :
    (updateLease runId g >>= f) db = (.ok b, next) ↔ leaseUpdateAllowed db runId g = true ∧
      f () { db with runLeases := Keyed.modify db.runLeases runId g } = (.ok b, next) := by
  simp only [updateLease, Action.bind_bind, Action.get_bind, Action.lift_bind_ok,
    Action.modify_bind, require_ok, leaseUpdateAllowed, exists_const]

theorem insertMutationRow_bind_ok {row : MutationRow} :
    (insertMutationRow row >>= f) db = (.ok b, next) ↔
    (row.check = true ∧ db.runExists row.runId = true ∧
      db.eventExists row.runId row.firstSequence = true ∧
      db.eventExists row.runId row.lastSequence = true ∧
      Keyed.find db.runMutations (row.runId, row.operationId) = none) ∧
      f () { db with runMutations := db.runMutations ++ [row] } = (.ok b, next) := by
  simp only [insertMutationRow, Action.bind_bind, Action.get_bind, Action.lift_bind_ok,
    Action.modify_bind, require_ok, Bool.and_eq_true, Option.isNone_iff_eq_none, and_assoc,
    exists_const]

/-- `run_snapshots` after `INSERT OR REPLACE`. -/
def replaceSnapshot (rows : List SnapshotRow) (row : SnapshotRow) : List SnapshotRow :=
  (rows.filter fun other => !(other.runId == row.runId && other.sequence == row.sequence)) ++ [row]

def snapshotRow (snapshot : RunSnapshot) (now : Nat) : SnapshotRow :=
  { snapshot with createdAtMs := now }

def putSnapshot (db : SqliteStore) (row : SnapshotRow) : SqliteStore :=
  { db with runSnapshots := replaceSnapshot db.runSnapshots row }

theorem insertSnapshot_bind_ok {snapshot : RunSnapshot} {now : Nat} :
    (insertSnapshot snapshot now >>= f) db = (.ok b, next) ↔
    ((snapshotRow snapshot now).check = true ∧ db.runExists snapshot.runId = true) ∧
      f () (db.putSnapshot (snapshotRow snapshot now)) = (.ok b, next) := by
  simp only [insertSnapshot, Action.bind_bind, Action.get_bind, Action.lift_bind_ok,
    Action.modify_bind, require_ok, Bool.and_eq_true, exists_const]
  rfl

theorem insertControl_bind_ok {row : ControlRow} :
    (insertControl row >>= f) db = (.ok b, next) ↔
    (row.check = true ∧ db.runExists row.runId = true ∧
      Keyed.find db.controlRequests (row.runId, row.operationId) = none) ∧
      f () { db with controlRequests := db.controlRequests ++ [row] } = (.ok b, next) := by
  simp only [insertControl, Action.bind_bind, Action.get_bind, Action.lift_bind_ok,
    Action.modify_bind, require_ok, Bool.and_eq_true, Option.isNone_iff_eq_none, and_assoc,
    exists_const]

/-- A control row after an acknowledgement update that selects it. -/
def acknowledgedRow (sequence : Nat) (row : ControlRow) : ControlRow :=
  if row.acknowledgedSequence.isNone then { row with acknowledgedSequence := some sequence }
  else row

/-- The trigger and foreign key of an acknowledgement. -/
def acknowledgementAllowed (db : SqliteStore) (runId operationId : String) (sequence : Nat) :
    Bool :=
  decide (0 < sequence) &&
    ((Keyed.find db.controlRequests (runId, operationId)).filter
      (·.acknowledgedSequence.isNone)).all fun row =>
        (Keyed.find db.events (runId, sequence)).any fun event =>
          observesControl row.toControlRequest event.event

def acknowledge (db : SqliteStore) (runId operationId : String) (sequence : Nat) : SqliteStore :=
  let rows := Keyed.modify db.controlRequests (runId, operationId) (acknowledgedRow sequence)
  { db with controlRequests := rows }

theorem acknowledgeControl_bind_ok {runId operationId : String} {sequence : Nat} :
    (acknowledgeControl runId operationId sequence >>= f) db = (.ok b, next) ↔
    acknowledgementAllowed db runId operationId sequence = true ∧
      f () (db.acknowledge runId operationId sequence) = (.ok b, next) := by
  simp only [acknowledgeControl, Action.bind_bind, Action.get_bind, Action.lift_bind_ok,
    Action.modify_bind, require_ok, acknowledgementAllowed, exists_const]
  rfl

end Statements

variable {platform : Platform}

/-- The integrity rows and history digests of a batch that extends `previous`. -/
def integrityRowsOf (hash : Hash) (runId : String) : String → List RunEvent → List IntegrityRow
  | _, [] => []
  | previous, event :: rest =>
    let integrity := extendEventHistoryDigest hash previous runId event
    { runId, sequence := event.sequence, eventDigest := integrity.1, historyDigest := integrity.2 }
      :: integrityRowsOf hash runId integrity.2 rest

def eventRowsOf (runId : String) (events : List RunEvent) : List EventRow :=
  events.map fun event =>
    { runId, sequence := event.sequence, eventType := event.payload.type, event }

def lastDigest (hash : Hash) (digests : List String) : String :=
  digests.getLast?.getD hash.emptyEventHistoryDigest

theorem insertEvents_ok {runId : String} {events : List RunEvent} {digests result : List String}
    {db next : SqliteStore}
    (inserted : insertEvents platform runId events digests db = (.ok result, next)) :
    next = { db with
      events := db.events ++ eventRowsOf runId events
      eventIntegrity := db.eventIntegrity ++
        integrityRowsOf platform.hash runId (lastDigest platform.hash digests) events } ∧
    result = digests ++
      (integrityRowsOf platform.hash runId (lastDigest platform.hash digests) events).map
        IntegrityRow.historyDigest := by
  induction events generalizing digests db with
  | nil =>
    simp only [insertEvents, Action.pure_run, Prod.mk.injEq, Except.ok.injEq] at inserted
    obtain ⟨rfl, rfl⟩ := inserted
    simp [eventRowsOf, integrityRowsOf]
  | cons event rest ih =>
    simp only [insertEvents, Action.lift_bind_ok, insertEvent_bind_ok,
      insertIntegrity_bind_ok] at inserted
    obtain ⟨_, _, _, _, inserted⟩ := inserted
    obtain ⟨rfl, rfl⟩ := ih inserted
    have last (digest : String) : lastDigest platform.hash (digests ++ [digest]) = digest := by
      simp [lastDigest]
    simp [eventRowsOf, integrityRowsOf, lastDigest]

theorem readLease_ok {db : SqliteStore} {runId : String} {lease : RunLease}
    (read : readLease platform db runId = .ok (some lease)) :
    db.lease? runId = some lease ∧ lease.runId = runId := by
  unfold readLease at read
  cases found : Keyed.find db.runLeases runId with
  | none => rw [found] at read; cases read
  | some row =>
    simp only [found, leaseFromRow] at read
    have decoded : ∀ message, asStoreError message (leaseFromRow platform row) = .ok row.toRunLease
        ∨ ∃ failure, asStoreError message (leaseFromRow platform row) = .error failure := by
      intro message
      cases unwrapped : leaseFromRow platform row with
      | error failure =>
        right
        cases failure <;> exact ⟨_, rfl⟩
      | ok value =>
        left
        simp only [leaseFromRow, bind_ok, pure_ok] at unwrapped
        obtain ⟨_, _, _, _, _, _, rfl⟩ := unwrapped
        rfl
    rcases decoded ("Invalid lease for run " ++ runId) with ok | ⟨failure, error⟩
    · simp only [leaseFromRow] at ok
      rw [ok] at read
      simp only [Except.map, Except.ok.injEq, Option.some.injEq] at read
      subst read
      exact ⟨by simp [lease?, found], Keyed.find_key found⟩
    · simp only [leaseFromRow] at error
      rw [error] at read
      cases read

theorem requireFence_ok {db : SqliteStore} {token : RunLeaseToken} {now : Nat} {lease : RunLease}
    (fenced : requireFence platform db token now = .ok lease) :
    db.lease? token.runId = some lease ∧ fenceLease lease token now = .ok () ∧
      lease.token = token := by
  simp only [requireFence, bind_ok, requireSome_ok, pure_ok] at fenced
  obtain ⟨_, read, current, rfl, _, fence, rfl⟩ := fenced
  obtain ⟨found, runId⟩ := readLease_ok read
  obtain ⟨ownerId, generation, _, _⟩ := fenceLease_ok.mp fence
  exact ⟨found, fence, by simp [RunLease.token, runId, ownerId, generation]⟩

/-- The lease row that a creation inserts. -/
def createdLease (platform : Platform) (input : CreateOwnedRun) (now : Nat) : LeaseRow :=
  { runId := input.runId, ownerId := input.ownerId, owner := input.owner, generation := 1,
    acquiredAtMs := now, renewedAtMs := now, expiresAtMs := now + runLeaseDurationMs,
    released := false, ownerDigest := platform.hash.digestJson input.owner.toJson }

def mutationRow (platform : Platform) (input : FencedRunMutation) (receipt : MutationReceipt)
    (now : Nat) : MutationRow :=
  { runId := input.lease.runId, operationId := input.operationId,
    generation := input.lease.generation,
    payloadDigest := mutationPayloadDigest platform.hash input,
    expectedSequence := input.expectedSequence, firstSequence := receipt.firstSequence,
    lastSequence := receipt.lastSequence, committedAtMs := now }

/-- The tables after a batch of events with its integrity rows. -/
def withEvents (platform : Platform) (db : SqliteStore) (runId previous : String)
    (events : List RunEvent) : SqliteStore :=
  { db with
    events := db.events ++ eventRowsOf runId events
    eventIntegrity := db.eventIntegrity ++ integrityRowsOf platform.hash runId previous events }

def withMutation (db : SqliteStore) (row : MutationRow) : SqliteStore :=
  { db with runMutations := db.runMutations ++ [row] }

def withLease (db : SqliteStore) (row : LeaseRow) : SqliteStore :=
  { db with runLeases := db.runLeases ++ [row] }

def withRun (db : SqliteStore) (row : RunRow) : SqliteStore := { db with runs := db.runs ++ [row] }

/-- The tables after a creation. -/
def created (platform : Platform) (db : SqliteStore) (input : CreateOwnedRun) (now : Nat) :
    SqliteStore :=
  ((((db.withRun {
    runId := input.runId, workflow := input.workflow,
    workflowDigest := platform.hash.digestJson input.workflow.toJson }).withEvents platform
      input.runId platform.hash.emptyEventHistoryDigest input.initialEvents).withLease
        (createdLease platform input now)).withMutation
          (mutationRow platform (creationMutation input) (creationReceipt input) now)).putSnapshot
            (snapshotRow input.snapshot now)

theorem createOwned_ok {input : CreateOwnedRun} {clock : Nat} {db next : SqliteStore}
    {receipt : OwnedRunReceipt}
    (completed : createOwned platform input clock db = (.ok receipt, next)) :
    validateCreateOwnedRun platform input = .ok () ∧ db.runExists input.runId = false ∧
      Keyed.find db.runLeases input.runId = none ∧ positive clock = true ∧
      positive (clock + runLeaseDurationMs) = true ∧
      Keyed.find db.runMutations (input.runId, input.operationId) = none ∧
      receipt = { lease := (creationMutation input).lease, mutation := creationReceipt input } ∧
      next = db.created platform input clock := by
  simp only [createOwned, Action.lift_bind_ok, writeTransaction_ok, Action.get_bind, require_ok,
    validateClock_ok, insertRun_bind_ok, insertMutation, Bool.not_eq_true'] at completed
  obtain ⟨_, valid, _, absent, _, ⟨clockValid, rfl⟩, _, completed⟩ := completed
  obtain ⟨digests, inner, inserted, completed⟩ := Action.bind_ok.mp completed
  obtain ⟨rfl, rfl⟩ := insertEvents_ok inserted
  simp only [Action.lift_bind_ok, insertLease_bind_ok, leaseExpiry_ok, insertMutationRow_bind_ok,
    insertSnapshot_bind_ok] at completed
  obtain ⟨_, ⟨expiry, rfl⟩, ⟨_, _, noLease⟩, _, _, ⟨_, _, _, _, noMutation⟩, _, _, _,
    completed⟩ := completed
  cases completed
  exact ⟨valid, absent, noLease, clockValid, expiry, noMutation, rfl, rfl⟩

def withLeases (db : SqliteStore) (runId : String) (f : LeaseRow → LeaseRow) : SqliteStore :=
  { db with runLeases := Keyed.modify db.runLeases runId f }

/-- A lease row rewritten by a new grant. -/
def grantedRow (platform : Platform) (input : AcquireReleasedRun) (generation now : Nat)
    (row : LeaseRow) : LeaseRow :=
  { row with
    ownerId := input.ownerId, owner := input.owner,
    ownerDigest := platform.hash.digestJson input.owner.toJson, generation,
    acquiredAtMs := now, renewedAtMs := now, expiresAtMs := now + runLeaseDurationMs,
    released := false }

theorem acquireReleased_ok {input : AcquireReleasedRun} {clock : Nat} {db next : SqliteStore}
    {token : RunLeaseToken}
    (acquired : acquireReleased platform input clock db = (.ok token, next)) :
    ∃ lease, db.lease? input.runId = some lease ∧ lease.released = true ∧
      GrantAllowed input (lease.generation + 1) clock ∧
      token = { runId := input.runId, ownerId := input.ownerId,
                generation := lease.generation + 1 } ∧
      next = db.withLeases input.runId (grantedRow platform input token.generation clock) := by
  simp only [acquireReleased, Action.lift_bind_ok, writeTransaction_ok, Action.get_bind,
    require_ok, requireSome_ok, validateClock_ok, leaseExpiry_ok, nextGeneration_ok, grantLease,
    updateLease_bind_ok] at acquired
  obtain ⟨_, valid, _, _, _, read, lease, rfl, _, released, _, ⟨clockValid, rfl⟩, _, ⟨bound, rfl⟩,
    _, ⟨expiryValid, rfl⟩, _, acquired⟩ := acquired
  cases acquired
  exact ⟨lease, (readLease_ok read).1, released,
    ⟨valid, positive_succ bound, clockValid, expiryValid⟩, rfl, rfl⟩

theorem takeoverAllowed_ok {current : Option RunLease} {input : TakeoverExpiredRun} {now : Nat}
    {lease : RunLease} (allowed : takeoverAllowed current input now = .ok lease) :
    current = some lease ∧ lease = input.observedLease ∧ lease.released = false ∧
      lease.expiresAtMs ≤ now := by
  simp only [takeoverAllowed, requireSome_bind_ok, require_bind_ok, pure_ok,
    Option.filter_eq_some_iff, Bool.and_eq_true, Bool.not_eq_true', decide_eq_true_eq] at allowed
  obtain ⟨_, ⟨present, unreleased, same⟩, expired, _, rfl⟩ := allowed
  exact ⟨present, same, unreleased, expired⟩

theorem takeoverExpired_ok {input : TakeoverExpiredRun} {clock : Nat} {db next : SqliteStore}
    {token : RunLeaseToken}
    (taken : takeoverExpired platform input clock db = (.ok token, next)) :
    ∃ lease, db.lease? input.runId = some lease ∧ lease = input.observedLease ∧
      lease.released = false ∧ lease.expiresAtMs ≤ clock ∧
      GrantAllowed input.toAcquireReleasedRun (lease.generation + 1) clock ∧
      token = { runId := input.runId, ownerId := input.ownerId,
                generation := lease.generation + 1 } ∧
      next = db.withLeases input.runId
        (grantedRow platform input.toAcquireReleasedRun token.generation clock) := by
  simp only [takeoverExpired, Action.lift_bind_ok, writeTransaction_ok, Action.get_bind,
    require_ok, validateClock_ok, leaseExpiry_ok, nextGeneration_ok, grantLease,
    updateLease_bind_ok] at taken
  obtain ⟨_, valid, _, _, _, _, _, _, current, read, _, ⟨clockValid, rfl⟩, lease, allowed, _,
    ⟨bound, rfl⟩, _, ⟨expiryValid, rfl⟩, _, taken⟩ := taken
  obtain ⟨rfl, same, unreleased, expired⟩ := takeoverAllowed_ok allowed
  cases taken
  exact ⟨lease, (readLease_ok read).1, same, unreleased, expired,
    ⟨valid, positive_succ bound, clockValid, expiryValid⟩, rfl, rfl⟩

/-- A lease row rewritten by a renewal of the lease it held. -/
def renewedRow (lease : RunLease) (row : LeaseRow) : LeaseRow :=
  { row with renewedAtMs := lease.renewedAtMs, expiresAtMs := lease.expiresAtMs }

theorem renew_ok {token : RunLeaseToken} {clock : Nat} {db next : SqliteStore}
    {renewed : RunLease} (completed : renew platform token clock db = (.ok renewed, next)) :
    ∃ lease, db.lease? token.runId = some lease ∧ fenceLease lease token clock = .ok () ∧
      lease.token = token ∧ positive clock = true ∧
      positive (max clock lease.renewedAtMs + runLeaseDurationMs) = true ∧
      renewed = renewedLease lease clock ∧
      next = db.withLeases token.runId (renewedRow renewed) := by
  simp only [renew, Action.lift_bind_ok, writeTransaction_ok, Action.get_bind, validateClock_ok,
    leaseExpiry_ok, updateLease_bind_ok] at completed
  obtain ⟨_, _, _, ⟨clockValid, rfl⟩, lease, fenced, _, ⟨expiry, rfl⟩, _, completed⟩ := completed
  obtain ⟨found, fence, same⟩ := requireFence_ok fenced
  cases completed
  exact ⟨lease, found, fence, same, clockValid, expiry, rfl, rfl⟩

theorem updateLease_ok {runId : String} {g : LeaseRow → LeaseRow} {db next : SqliteStore}
    {u : Unit} : updateLease runId g db = (.ok u, next) ↔
      leaseUpdateAllowed db runId g = true ∧ db.withLeases runId g = next := by
  have extended : updateLease runId g db =
      (updateLease runId g >>= fun u => (pure u : Action SqliteStore Unit)) db := by
    simp only [updateLease, Action.bind_bind, Action.get_bind, Action.lift_bind]
    cases require _ sqliteError <;> rfl
  rw [extended, updateLease_bind_ok, Action.pure_run, Prod.mk.injEq]
  simp [withLeases]

def releasedRow (row : LeaseRow) : LeaseRow := { row with released := true }

theorem release_ok {token : RunLeaseToken} {db next : SqliteStore} {u : Unit}
    (completed : release platform token db = (.ok u, next)) :
    ∃ lease, db.lease? token.runId = some lease ∧ lease.token = token ∧
      (lease.released = true ∧ next = db ∨
        lease.released = false ∧ next = db.withLeases token.runId releasedRow) := by
  simp only [release, Action.lift_bind_ok, writeTransaction_ok, Action.get_bind, require_ok,
    requireSome_ok, Bool.and_eq_true, beq_iff_eq] at completed
  obtain ⟨_, _, _, read, lease, rfl, _, ⟨ownerId, generation⟩, completed⟩ := completed
  obtain ⟨found, runId⟩ := readLease_ok read
  refine ⟨lease, found, by simp [RunLease.token, runId, ownerId, generation], ?_⟩
  cases released : lease.released with
  | true =>
    simp only [released, if_true, Action.pure_run] at completed
    cases completed
    exact .inl ⟨rfl, rfl⟩
  | false =>
    simp only [released, Bool.false_eq_true, if_false, updateLease_ok] at completed
    exact .inr ⟨rfl, completed.2.symm⟩

/-- The tables after the optional snapshot of a commit. -/
def withSnapshot (db : SqliteStore) (snapshot : Option RunSnapshot) (now : Nat) : SqliteStore :=
  match snapshot with
  | some snapshot => db.putSnapshot (snapshotRow snapshot now)
  | none => db

/-- The tables after the optional acknowledgement of a commit. -/
def withAcknowledgement (db : SqliteStore) (runId : String) (operationId : Option String)
    (sequence : Option Nat) : SqliteStore :=
  match operationId, sequence with
  | some operationId, some sequence => db.acknowledge runId operationId sequence
  | _, _ => db

/-- The tables after a first commit. -/
def appended (platform : Platform) (db : SqliteStore) (input : FencedRunMutation)
    (digests : List String) (acknowledgement : Option Nat) (now : Nat) : SqliteStore :=
  (((db.withEvents platform input.lease.runId (lastDigest platform.hash digests)
    input.events).withMutation (mutationRow platform input (receiptFor input) now)).withSnapshot
      input.snapshot now).withAcknowledgement input.lease.runId input.handlesControlOperationId
        acknowledgement

theorem acknowledgement_ok {runId : String} {operationId : Option String} {sequence : Option Nat}
    {receipt result : MutationReceipt} {db next : SqliteStore}
    (acknowledged : (match operationId, sequence with
      | some operationId, some sequence => do
        acknowledgeControl runId operationId sequence
        pure receipt
      | _, _ => pure receipt : Action SqliteStore MutationReceipt) db = (.ok result, next)) :
    result = receipt ∧ next = db.withAcknowledgement runId operationId sequence := by
  cases operationId with
  | none => cases acknowledged; exact ⟨rfl, rfl⟩
  | some operationId =>
    cases sequence with
    | none => cases acknowledged; exact ⟨rfl, rfl⟩
    | some sequence =>
      simp only [acknowledgeControl_bind_ok] at acknowledged
      cases acknowledged.2
      exact ⟨rfl, rfl⟩

theorem commit_ok {input : FencedRunMutation} {clock : Nat} {db next : SqliteStore}
    {receipt : MutationReceipt}
    (committed : commit platform input clock db = (.ok receipt, next)) :
    ∃ lease, db.lease? input.lease.runId = some lease ∧ lease.token = input.lease ∧
      validateMutation input = .ok () ∧ positive clock = true ∧
      fenceLease lease input.lease clock = .ok () ∧
      ((∃ prior, Keyed.find db.runMutations (input.lease.runId, input.operationId) = some prior ∧
          prior.payloadDigest = mutationPayloadDigest platform.hash input ∧
          receipt = { runId := input.lease.runId, operationId := input.operationId,
                      firstSequence := prior.firstSequence, lastSequence := prior.lastSequence,
                      replayed := true } ∧ next = db) ∨
       (Keyed.find db.runMutations (input.lease.runId, input.operationId) = none ∧
          ∃ digests acknowledgement,
            checkAppend platform db input = .ok (digests, acknowledgement) ∧
            receipt = receiptFor input ∧
            next = db.appended platform input digests acknowledgement clock)) := by
  simp only [commit, Action.lift_bind_ok, writeTransaction_ok, Action.get_bind,
    validateClock_ok] at committed
  obtain ⟨_, valid, _, ⟨clockValid, rfl⟩, lease, fenced, committed⟩ := committed
  obtain ⟨found, fence, same⟩ := requireFence_ok fenced
  refine ⟨lease, found, same, valid, clockValid, fence, ?_⟩
  cases known : Keyed.find db.runMutations (input.lease.runId, input.operationId) with
  | some prior =>
    simp only [known, Action.lift_bind_ok, require_ok, beq_iff_eq] at committed
    obtain ⟨_, _, _, payload, committed⟩ := committed
    cases committed
    exact .inl ⟨prior, rfl, payload, rfl, rfl⟩
  | none =>
    simp only [known, Action.lift_bind_ok] at committed
    obtain ⟨⟨digests, acknowledgement⟩, checked, committed⟩ := committed
    refine .inr ⟨rfl, digests, acknowledgement, checked, ?_⟩
    obtain ⟨_, _, inserted, committed⟩ := Action.bind_ok.mp committed
    obtain ⟨rfl, rfl⟩ := insertEvents_ok inserted
    simp only [insertMutation, insertMutationRow_bind_ok] at committed
    obtain ⟨_, committed⟩ := committed
    cases snapshot : input.snapshot with
    | none =>
      simp only [snapshot] at committed
      obtain ⟨rfl, rfl⟩ := acknowledgement_ok committed
      simp only [appended, snapshot, withSnapshot]
      exact ⟨trivial, rfl⟩
    | some value =>
      simp only [snapshot, insertSnapshot_bind_ok] at committed
      obtain ⟨rfl, rfl⟩ := acknowledgement_ok committed.2
      simp only [appended, snapshot, withSnapshot]
      exact ⟨trivial, rfl⟩

/-- The two answers to a submission: a replayed receipt, or a new row. -/
theorem submitControl_receipt {input : ControlSubmission} {clock : Nat} {db next : SqliteStore}
    {receipt : ControlReceipt}
    (submitted : submitControl input clock db = (.ok receipt, next)) :
    db.runExists input.runId = true ∧ validateControlSubmission input = .ok () ∧
      ((∃ prior control, Keyed.find db.controlRequests (input.runId, input.operationId) =
            some prior ∧ controlFromRow prior = .ok control ∧
          receipt = { control with replayed := true } ∧ next = db) ∨
       (Keyed.find db.controlRequests (input.runId, input.operationId) = none ∧
          positive clock = true ∧
          receipt = { input with recordedAtMs := clock, replayed := false } ∧
          next = { db with controlRequests := db.controlRequests ++
            [{ input with recordedAtMs := clock, acknowledgedSequence := none }] })) := by
  simp only [submitControl, Action.lift_bind_ok, writeTransaction_ok, Action.get_bind,
    require_ok] at submitted
  obtain ⟨_, valid, _, present, submitted⟩ := submitted
  refine ⟨present, valid, ?_⟩
  cases known : Keyed.find db.controlRequests (input.runId, input.operationId) with
  | some prior =>
    simp only [known, Action.lift_bind_ok] at submitted
    obtain ⟨control, read, _, _, submitted⟩ := submitted
    cases submitted
    exact .inl ⟨prior, control, rfl, read, rfl, rfl⟩
  | none =>
    simp only [known, Action.lift_bind_ok, validateClock_ok, insertControl_bind_ok] at submitted
    obtain ⟨_, ⟨clockValid, rfl⟩, _, submitted⟩ := submitted
    cases submitted
    exact .inr ⟨rfl, clockValid, rfl, rfl⟩

theorem submitControl_ok {input : ControlSubmission} {clock : Nat} {db next : SqliteStore}
    {receipt : ControlReceipt}
    (submitted : submitControl input clock db = (.ok receipt, next)) :
    db.runExists input.runId = true ∧ (next = db ∨
      (Keyed.find db.controlRequests (input.runId, input.operationId) = none ∧
        positive clock = true ∧ next = { db with controlRequests := db.controlRequests ++
          [{ input with recordedAtMs := clock, acknowledgedSequence := none }] })) := by
  obtain ⟨present, _, ⟨_, _, _, _, _, same⟩ | ⟨fresh, clockValid, _, added⟩⟩ :=
    submitControl_receipt submitted
  · exact ⟨present, .inl same⟩
  · exact ⟨present, .inr ⟨fresh, clockValid, added⟩⟩

/-- Every writing operation validates first and then runs in one transaction. -/
theorem transaction_atomic {α β : Type} {validation : Except Failure β}
    (operation : Action SqliteStore α) :
    Action.Atomic (Action.lift validation >>= fun _ => writeTransaction operation) :=
  Action.atomic_lift_bind fun _ => writeTransaction_atomic operation

theorem load_state (runId : String) (mode : LoadMode) (db : SqliteStore) :
    (load platform runId mode db).2 = db := by
  simp only [load, Action.lift_bind, Action.get_bind]
  cases assertIdentifier runId "run ID" <;> rfl

theorem inspectLease_state (runId : String) (db : SqliteStore) :
    (inspectLease platform runId db).2 = db := by
  simp only [inspectLease, Action.lift_bind, Action.get_bind]
  cases assertIdentifier runId "run ID" <;> rfl

theorem pendingControls_state (runId : String) (limit : Nat) (db : SqliteStore) :
    (pendingControls runId limit db).2 = db := by
  simp only [pendingControls, Action.lift_bind, Action.get_bind]
  cases assertIdentifier runId "run ID" with
  | error => rfl
  | ok =>
  cases assertControlLimit limit with
  | error => rfl
  | ok =>
  simp only
  cases require (db.runExists runId) (notFound runId) <;> rfl

end Anastom.SqliteStore
