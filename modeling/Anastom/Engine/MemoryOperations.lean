import Anastom.Engine.MemoryStore
import Anastom.Engine.StoreRules

/-! What each operation of the in-memory store does when it succeeds, and that one
which throws changes nothing: except for `renew`, whose partial write it states. -/
namespace Anastom

namespace MemoryStore

theorem requireRun_ok {store : MemoryStore} {runId : String} {run : MemoryRun} :
    store.requireRun runId = .ok run ↔ store.run? runId = some run := requireSome_ok

theorem run?_runId {store : MemoryStore} {runId : String} {run : MemoryRun}
    (found : store.run? runId = some run) : run.lease.runId = runId := Keyed.find_key found

/-- Updating one run leaves the others; the update may not rename the run. -/
theorem run?_updateRun {store : MemoryStore} {runId other : String} {f : MemoryRun → MemoryRun}
    (keeps : ∀ run, run.lease.runId = runId → (f run).lease.runId = runId) :
    (store.updateRun runId f).run? other =
      if other = runId then (store.run? other).map f else store.run? other :=
  Keyed.find_modify keeps

variable {platform : Platform}

/-- The run record that a creation stores. -/
def createdRun (platform : Platform) (input : CreateOwnedRun) (now : Nat) : MemoryRun :=
  let lease := grantedLease { runId := input.runId, ownerId := input.ownerId, owner := input.owner }
    1 now (now + runLeaseDurationMs)
  let mutation : FencedRunMutation :=
    { lease := lease.token, operationId := input.operationId, expectedSequence := 0,
      events := input.initialEvents, snapshot := some input.snapshot }
  let receipt : MutationReceipt :=
    { runId := input.runId, operationId := input.operationId, firstSequence := 1,
      lastSequence := input.initialEvents.length, replayed := false }
  { workflow := input.workflow
    events := input.initialEvents
    lease := lease
    mutations := [{ operationId := input.operationId,
                    payloadDigest := mutationPayloadDigest platform.hash mutation, receipt }]
    controls := []
    snapshots := [input.snapshot] }

theorem createOwned_ok {input : CreateOwnedRun} {clock : Nat} {store next : MemoryStore}
    {receipt : OwnedRunReceipt} :
    createOwned platform input clock store = (.ok receipt, next) ↔
      validateCreateOwnedRun platform input = .ok () ∧ store.run? input.runId = none ∧
      positive clock = true ∧ positive (clock + runLeaseDurationMs) = true ∧
      { lease := (creationMutation input).lease, mutation := creationReceipt input } = receipt ∧
      { runs := store.runs ++ [createdRun platform input clock] } = next := by
  simp only [createOwned, Action.lift_bind_ok, Action.get_bind, require_ok, validateClock_ok,
    leaseExpiry_ok, Option.isNone_iff_eq_none]
  constructor
  · rintro ⟨_, valid, _, absent, now, ⟨clockValid, rfl⟩, expiresAtMs, ⟨expiryValid, rfl⟩, created⟩
    cases created
    exact ⟨valid, absent, clockValid, expiryValid, rfl, rfl⟩
  · rintro ⟨valid, absent, clockValid, expiryValid, rfl, rfl⟩
    exact ⟨(), valid, (), absent, clock, ⟨clockValid, rfl⟩, _, ⟨expiryValid, rfl⟩, rfl⟩

theorem acquireReleased_ok {input : AcquireReleasedRun} {clock : Nat} {store next : MemoryStore}
    {token : RunLeaseToken}
    (acquired : acquireReleased input clock store = (.ok token, next)) :
    ∃ run, store.run? input.runId = some run ∧ run.lease.released = true ∧
      GrantAllowed input (run.lease.generation + 1) clock ∧
      token = { runId := input.runId, ownerId := input.ownerId,
                generation := run.lease.generation + 1 } ∧
      next = store.updateRun input.runId fun run => { run with
        lease := grantedLease input token.generation clock (clock + runLeaseDurationMs) } := by
  simp only [acquireReleased, Action.lift_bind_ok, Action.get_bind, require_ok, requireRun_ok,
    validateClock_ok, leaseExpiry_ok, nextGeneration_ok] at acquired
  obtain ⟨_, valid, run, found, _, released, now, ⟨clockValid, rfl⟩, generation, ⟨bound, rfl⟩,
    expiresAtMs, ⟨expiryValid, rfl⟩, acquired⟩ := acquired
  cases acquired
  exact ⟨run, found, released, ⟨valid, positive_succ bound, clockValid, expiryValid⟩, rfl, rfl⟩

theorem takeoverAllowed_ok {current : RunLease} {input : TakeoverExpiredRun} {now : Nat}
    {u : Unit} (allowed : takeoverAllowed current input now = .ok u) :
    current = input.observedLease ∧ current.released = false ∧ current.expiresAtMs ≤ now := by
  simp only [takeoverAllowed, require_bind_ok, Bool.and_eq_true, decide_eq_true_eq,
    Bool.not_eq_true'] at allowed
  exact ⟨allowed.1.1, allowed.1.2, allowed.2.1⟩

theorem takeoverExpired_ok {input : TakeoverExpiredRun} {clock : Nat} {store next : MemoryStore}
    {token : RunLeaseToken}
    (taken : takeoverExpired input clock store = (.ok token, next)) :
    ∃ run, store.run? input.runId = some run ∧ run.lease = input.observedLease ∧
      run.lease.released = false ∧ run.lease.expiresAtMs ≤ clock ∧
      GrantAllowed input.toAcquireReleasedRun (run.lease.generation + 1) clock ∧
      token = { runId := input.runId, ownerId := input.ownerId,
                generation := run.lease.generation + 1 } ∧
      next = store.updateRun input.runId fun run => { run with
        lease := grantedLease input.toAcquireReleasedRun token.generation clock
          (clock + runLeaseDurationMs) } := by
  simp only [takeoverExpired, Action.lift_bind_ok, Action.get_bind, requireRun_ok,
    validateClock_ok, leaseExpiry_ok, nextGeneration_ok] at taken
  obtain ⟨_, valid, _, _, _, _, run, found, now, ⟨clockValid, rfl⟩, _, allowed, generation,
    ⟨bound, rfl⟩, expiresAtMs, ⟨expiryValid, rfl⟩, taken⟩ := taken
  obtain ⟨same, unreleased, expired⟩ := takeoverAllowed_ok allowed
  cases taken
  exact ⟨run, found, same, unreleased, expired,
    ⟨valid, positive_succ bound, clockValid, expiryValid⟩, rfl, rfl⟩

theorem updateRun_updateRun {store : MemoryStore} {runId : String} {f g : MemoryRun → MemoryRun}
    (keeps : ∀ run, run.lease.runId = runId → (f run).lease.runId = runId) :
    (store.updateRun runId f).updateRun runId g = store.updateRun runId (g ∘ f) := by
  unfold updateRun
  rw [MemoryStore.mk.injEq]
  exact Keyed.modify_modify keeps

/-- The three ways a renewal can end: rejected without effect, completed, or thrown
by the expiry bound after the renewal time was written. -/
theorem renew_cases (token : RunLeaseToken) (clock : Nat) (store : MemoryStore) :
    (∃ failure, renew token clock store = (.error failure, store)) ∨
    ∃ run, store.run? token.runId = some run ∧ fenceLease run.lease token clock = .ok () ∧
      positive clock = true ∧
      ((positive (max clock run.lease.renewedAtMs + runLeaseDurationMs) = true ∧
        renew token clock store = (.ok (renewedLease run.lease clock),
          store.updateRun token.runId fun current =>
            { current with lease := renewedLease run.lease clock })) ∨
      (positive (max clock run.lease.renewedAtMs + runLeaseDurationMs) = false ∧
        renew token clock store = (.error (.typeError "Invalid lease expiry time"),
          store.updateRun token.runId fun current => { current with
            lease := { run.lease with renewedAtMs := max clock run.lease.renewedAtMs } }))) := by
  simp only [renew, Action.lift_bind, Action.get_bind]
  cases assertRunLeaseToken token with
  | error failure => exact .inl ⟨failure, rfl⟩
  | ok _ =>
  cases found : store.requireRun token.runId with
  | error failure => exact .inl ⟨failure, rfl⟩
  | ok run =>
  have present := requireRun_ok.mp found
  cases clockOk : validateClock clock with
  | error failure => exact .inl ⟨failure, rfl⟩
  | ok now =>
  obtain ⟨clockValid, rfl⟩ := validateClock_ok.mp clockOk
  cases fenced : fenceLease run.lease token now with
  | error failure => simp only [fenced]; exact .inl ⟨failure, rfl⟩
  | ok _ =>
  simp only [fenced]
  refine .inr ⟨run, present, fenced, clockValid, ?_⟩
  rw [Action.modify_bind, Action.lift_bind]
  cases bounded : positive (max now run.lease.renewedAtMs + runLeaseDurationMs) with
  | false =>
    refine .inr ⟨rfl, ?_⟩
    simp only [leaseExpiry, assertTimestamp, bounded, require]
    rfl
  | true =>
    refine .inl ⟨rfl, ?_⟩
    have runId := run?_runId present
    simp only [leaseExpiry, assertTimestamp, bounded, require]
    exact congrArg (Prod.mk (Except.ok (renewedLease run.lease now)))
      (updateRun_updateRun fun _ _ => runId)

theorem renew_ok {token : RunLeaseToken} {clock : Nat} {store next : MemoryStore}
    {lease : RunLease} (renewed : renew token clock store = (.ok lease, next)) :
    ∃ run, store.run? token.runId = some run ∧ fenceLease run.lease token clock = .ok () ∧
      positive clock = true ∧
      positive (max clock run.lease.renewedAtMs + runLeaseDurationMs) = true ∧
      lease = renewedLease run.lease clock ∧
      next = store.updateRun token.runId fun current =>
        { current with lease := renewedLease run.lease clock } := by
  rcases renew_cases token clock store with
    ⟨_, rejected⟩ | ⟨run, found, fenced, clockValid, ⟨expiry, completed⟩ | ⟨_, thrown⟩⟩
  · rw [rejected] at renewed; cases renewed
  · rw [completed] at renewed
    cases renewed
    exact ⟨run, found, fenced, clockValid, expiry, rfl, rfl⟩
  · rw [thrown] at renewed; cases renewed

theorem release_ok {token : RunLeaseToken} {store next : MemoryStore} {u : Unit}
    (released : release token store = (.ok u, next)) :
    ∃ run, store.run? token.runId = some run ∧ run.lease.token = token ∧
      next = store.updateRun token.runId fun run =>
        { run with lease := { run.lease with released := true } } := by
  simp only [release, Action.lift_bind_ok, Action.get_bind, requireRun_ok, require_ok,
    Bool.and_eq_true, beq_iff_eq] at released
  obtain ⟨_, _, run, found, _, ⟨ownerId, generation⟩, released⟩ := released
  cases released
  refine ⟨run, found, ?_, rfl⟩
  simp [RunLease.token, run?_runId found, ownerId, generation]

/-- The checks of a first commit. -/
theorem checkAppend_ok {run : MemoryRun} {input : FencedRunMutation}
    {acknowledgement : Option (String × Nat)} :
    checkAppend platform run input = .ok acknowledgement ↔
      lastSequence run.events = input.expectedSequence ∧
      ∃ state, replayRun (run.events ++ input.events) = .ok state ∧
        stateMatchesWorkflow state run.workflow = true ∧
        (∀ snapshot ∈ input.snapshot, assertRunSnapshot platform snapshot run.workflow
          (run.events ++ input.events) = .ok ()) ∧
        validateControlAcknowledgement run.controls input = .ok acknowledgement := by
  simp only [checkAppend, assertStateMatchesWorkflow, require_bind_ok, beq_iff_eq]
  refine and_congr_right fun _ => ?_
  rw [bind_ok]
  refine exists_congr fun state => and_congr_right fun _ => ?_
  rw [require_bind_ok]
  refine and_congr_right fun _ => ?_
  cases input.snapshot with
  | none => simp
  | some snapshot =>
    simp only [bind_ok, Option.mem_some_iff, forall_eq']
    constructor
    · rintro ⟨_, confirmed, rest⟩
      exact ⟨confirmed, rest⟩
    · rintro ⟨confirmed, rest⟩
      exact ⟨(), confirmed, rest⟩

theorem commit_ok {input : FencedRunMutation} {clock : Nat} {store next : MemoryStore}
    {receipt : MutationReceipt}
    (committed : commit platform input clock store = (.ok receipt, next)) :
    ∃ run, store.run? input.lease.runId = some run ∧ validateMutation input = .ok () ∧
      positive clock = true ∧ fenceLease run.lease input.lease clock = .ok () ∧
      ((∃ prior, Keyed.find run.mutations input.operationId = some prior ∧
          prior.payloadDigest = mutationPayloadDigest platform.hash input ∧
          receipt = { prior.receipt with replayed := true } ∧ next = store) ∨
       (Keyed.find run.mutations input.operationId = none ∧
          ∃ acknowledgement, checkAppend platform run input = .ok acknowledgement ∧
            receipt = receiptFor input ∧
            next = store.updateRun input.lease.runId
              (appended platform input acknowledgement))) := by
  simp only [commit, Action.lift_bind_ok, Action.get_bind, requireRun_ok,
    validateClock_ok] at committed
  obtain ⟨_, valid, run, found, now, ⟨clockValid, rfl⟩, _, fenced, committed⟩ := committed
  refine ⟨run, found, valid, clockValid, fenced, ?_⟩
  cases known : Keyed.find run.mutations input.operationId with
  | some prior =>
    simp only [known, Action.lift_bind_ok, require_ok, beq_iff_eq] at committed
    obtain ⟨_, same, committed⟩ := committed
    cases committed
    exact .inl ⟨prior, rfl, same, rfl, rfl⟩
  | none =>
    simp only [known, Action.lift_bind_ok] at committed
    obtain ⟨acknowledgement, checked, committed⟩ := committed
    cases committed
    exact .inr ⟨rfl, acknowledgement, checked, rfl, rfl⟩

theorem createOwned_atomic (input : CreateOwnedRun) (clock : Nat) :
    Action.Atomic (createOwned platform input clock) :=
  Action.atomic_lift_bind fun _ => Action.atomic_get_bind fun _ => Action.atomic_lift_bind fun _ =>
    Action.atomic_lift_bind fun _ => Action.atomic_lift_bind fun _ => Action.atomic_modify _ _

theorem acquireReleased_atomic (input : AcquireReleasedRun) (clock : Nat) :
    Action.Atomic (acquireReleased input clock) :=
  Action.atomic_lift_bind fun _ => Action.atomic_get_bind fun _ => Action.atomic_lift_bind fun _ =>
    Action.atomic_lift_bind fun _ => Action.atomic_lift_bind fun _ => Action.atomic_lift_bind fun _ =>
      Action.atomic_lift_bind fun _ => Action.atomic_modify _ _

theorem takeoverExpired_atomic (input : TakeoverExpiredRun) (clock : Nat) :
    Action.Atomic (takeoverExpired input clock) :=
  Action.atomic_lift_bind fun _ => Action.atomic_lift_bind fun _ => Action.atomic_lift_bind fun _ =>
    Action.atomic_get_bind fun _ => Action.atomic_lift_bind fun _ => Action.atomic_lift_bind fun _ =>
      Action.atomic_lift_bind fun _ => Action.atomic_lift_bind fun _ =>
        Action.atomic_lift_bind fun _ => Action.atomic_modify _ _

theorem release_atomic (token : RunLeaseToken) : Action.Atomic (release token) :=
  Action.atomic_lift_bind fun _ => Action.atomic_get_bind fun _ => Action.atomic_lift_bind fun _ =>
    Action.atomic_lift_bind fun _ => Action.atomic_modify _ _

theorem commit_atomic (input : FencedRunMutation) (clock : Nat) :
    Action.Atomic (commit platform input clock) := by
  refine Action.atomic_lift_bind fun _ => Action.atomic_get_bind fun _ =>
    Action.atomic_lift_bind fun run => Action.atomic_lift_bind fun _ =>
      Action.atomic_lift_bind fun _ => ?_
  cases Keyed.find run.mutations input.operationId with
  | some prior => exact Action.atomic_lift_bind fun _ => Action.atomic_pure _
  | none => exact Action.atomic_lift_bind fun _ => Action.atomic_modify _ _

theorem submitControl_atomic (input : ControlSubmission) (clock : Nat) :
    Action.Atomic (submitControl input clock) := by
  refine Action.atomic_lift_bind fun _ => Action.atomic_get_bind fun _ =>
    Action.atomic_lift_bind fun run => ?_
  cases Keyed.find run.controls input.operationId with
  | some prior => exact Action.atomic_lift_bind fun _ => Action.atomic_pure _
  | none => exact Action.atomic_lift_bind fun _ => Action.atomic_modify _ _

/-- The reading operations return whatever they return without a change. -/
theorem load_state (runId : String) (mode : LoadMode) (store : MemoryStore) :
    (load platform runId mode store).2 = store := by
  simp only [load, Action.lift_bind, Action.get_bind]
  cases assertIdentifier runId "run ID" with
  | error => rfl
  | ok =>
  cases store.run? runId with
  | none => rfl
  | some run =>
  simp only [Action.lift_bind]
  cases replayRun run.events with
  | error => rfl
  | ok state =>
  simp only
  cases assertStateMatchesWorkflow state run.workflow with
  | error => rfl
  | ok =>
  cases createRunSnapshot platform run.workflow run.events <;> rfl

theorem inspectLease_state (runId : String) (store : MemoryStore) :
    (inspectLease runId store).2 = store := by
  simp only [inspectLease, Action.lift_bind, Action.get_bind]
  cases assertIdentifier runId "run ID" <;> rfl

theorem pendingControls_state (runId : String) (limit : Nat) (store : MemoryStore) :
    (pendingControls runId limit store).2 = store := by
  simp only [pendingControls, Action.lift_bind, Action.get_bind]
  cases assertIdentifier runId "run ID" with
  | error => rfl
  | ok =>
  cases assertControlLimit limit with
  | error => rfl
  | ok => cases store.requireRun runId <;> rfl

/-- The two answers to a submission: a replayed receipt, or a new control. -/
theorem submitControl_receipt {input : ControlSubmission} {clock : Nat}
    {store next : MemoryStore} {receipt : ControlReceipt}
    (submitted : submitControl input clock store = (.ok receipt, next)) :
    ∃ run, store.run? input.runId = some run ∧ validateControlSubmission input = .ok () ∧
      ((∃ prior, Keyed.find run.controls input.operationId = some prior ∧
          receipt = { prior.toControlRequest with replayed := true } ∧ next = store) ∨
       (Keyed.find run.controls input.operationId = none ∧ positive clock = true ∧
          receipt = { input with recordedAtMs := clock, replayed := false } ∧
          next = store.updateRun input.runId fun run => { run with
            controls := run.controls ++ [{ input with
              recordedAtMs := clock, acknowledgedSequence := none }] })) := by
  simp only [submitControl, Action.lift_bind_ok, Action.get_bind, requireRun_ok] at submitted
  obtain ⟨_, valid, run, found, submitted⟩ := submitted
  refine ⟨run, found, valid, ?_⟩
  cases known : Keyed.find run.controls input.operationId with
  | some prior =>
    simp only [known, Action.lift_bind_ok] at submitted
    obtain ⟨_, _, submitted⟩ := submitted
    cases submitted
    exact .inl ⟨prior, rfl, rfl, rfl⟩
  | none =>
    simp only [known, Action.lift_bind_ok, validateClock_ok] at submitted
    obtain ⟨_, ⟨clockValid, rfl⟩, submitted⟩ := submitted
    cases submitted
    exact .inr ⟨rfl, clockValid, rfl, rfl⟩

theorem submitControl_ok {input : ControlSubmission} {clock : Nat} {store next : MemoryStore}
    {receipt : ControlReceipt}
    (submitted : submitControl input clock store = (.ok receipt, next)) :
    ∃ run, store.run? input.runId = some run ∧ (next = store ∨
      (Keyed.find run.controls input.operationId = none ∧ positive clock = true ∧
        next = store.updateRun input.runId fun run => { run with
          controls := run.controls ++ [{ input with
            recordedAtMs := clock, acknowledgedSequence := none }] })) := by
  obtain ⟨run, found, _, ⟨_, _, _, same⟩ | ⟨fresh, clockValid, _, added⟩⟩ :=
    submitControl_receipt submitted
  · exact ⟨run, found, .inl same⟩
  · exact ⟨run, found, .inr ⟨fresh, clockValid, added⟩⟩

end MemoryStore
end Anastom
