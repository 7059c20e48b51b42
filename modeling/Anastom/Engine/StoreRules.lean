import Anastom.Engine.DurableStore

/-! What the validation that both stores share admits, and which lease records it
keeps valid. -/
namespace Anastom

theorem fenceLease_ok {lease : RunLease} {token : RunLeaseToken} {now : Nat} {u : Unit} :
    fenceLease lease token now = .ok u ↔ lease.ownerId = token.ownerId ∧
      lease.generation = token.generation ∧ lease.released = false ∧ now < lease.expiresAtMs := by
  simp [fenceLease, require_bind_ok, and_assoc]

theorem validateClock_ok {clock now : Nat} :
    validateClock clock = .ok now ↔ positive clock = true ∧ now = clock := by
  simp only [validateClock, assertTimestamp, require_bind_ok, pure_ok]
  exact and_congr_right fun _ => eq_comm

theorem leaseExpiry_ok {now expiresAtMs : Nat} : leaseExpiry now = .ok expiresAtMs ↔
    positive (now + runLeaseDurationMs) = true ∧ expiresAtMs = now + runLeaseDurationMs := by
  simp only [leaseExpiry, assertTimestamp, require_bind_ok, pure_ok]
  exact and_congr_right fun _ => eq_comm

theorem nextGeneration_ok {generation next : Nat} : nextGeneration generation = .ok next ↔
    generation + 1 ≤ maxSafeInteger ∧ next = generation + 1 := by
  simp only [nextGeneration, require_bind_ok, pure_ok, decide_eq_true_eq]
  exact and_congr_right fun _ => eq_comm

@[simp] theorem assertIdentifier_ok {value label : String} {u : Unit} :
    assertIdentifier value label = .ok u ↔ Text.identifier value = true := require_ok

theorem assertRunLeaseToken_ok {token : RunLeaseToken} {u : Unit} :
    assertRunLeaseToken token = .ok u ↔ Text.identifier token.runId = true ∧
      Text.uuid token.ownerId = true ∧ positive token.generation = true := by
  simp only [assertRunLeaseToken, assertIdentifier, assertOwnerId, require_bind_ok, require_ok]

/-- The field checks that `assertRunLease` makes. -/
structure RunLease.Valid (lease : RunLease) : Prop where
  runId : Text.identifier lease.runId = true
  ownerId : Text.uuid lease.ownerId = true
  generation : positive lease.generation = true
  owner : lease.owner.valid = true
  acquiredAtMs : positive lease.acquiredAtMs = true
  renewedAtMs : positive lease.renewedAtMs = true
  expiresAtMs : positive lease.expiresAtMs = true
  acquired_renewed : lease.acquiredAtMs ≤ lease.renewedAtMs
  renewed_expires : lease.renewedAtMs ≤ lease.expiresAtMs

theorem assertRunLease_ok {lease : RunLease} {u : Unit} :
    assertRunLease lease = .ok u ↔ lease.Valid := by
  simp only [assertRunLease, assertRunLeaseToken, assertIdentifier, assertOwnerId,
    assertLocalProcessIdentity, assertTimestamp, require_bind_ok, require_ok, bind_assoc,
    Bool.and_eq_true, decide_eq_true_eq]
  constructor
  · rintro ⟨runId, ownerId, generation, owner, acquired, renewed, expires, first, second⟩
    exact ⟨runId, ownerId, generation, owner, acquired, renewed, expires, first, second⟩
  · rintro ⟨runId, ownerId, generation, owner, acquired, renewed, expires, first, second⟩
    exact ⟨runId, ownerId, generation, owner, acquired, renewed, expires, first, second⟩

theorem RunLease.Valid.token {lease : RunLease} (valid : lease.Valid) :
    assertRunLeaseToken lease.token = .ok () :=
  assertRunLeaseToken_ok.mpr ⟨valid.runId, valid.ownerId, valid.generation⟩

theorem validateAcquisition_ok {input : AcquireReleasedRun} {u : Unit} :
    validateAcquisition input = .ok u ↔ Text.identifier input.runId = true ∧
      Text.uuid input.ownerId = true ∧ input.owner.valid = true := by
  simp only [validateAcquisition, assertIdentifier, assertOwnerId, assertLocalProcessIdentity,
    require_bind_ok, require_ok]

/-- What an acquisition has checked when it writes its lease. -/
structure GrantAllowed (input : AcquireReleasedRun) (generation clock : Nat) : Prop where
  inputValid : validateAcquisition input = .ok ()
  generationValid : positive generation = true
  clockValid : positive clock = true
  expiryValid : positive (clock + runLeaseDurationMs) = true

/-- The lease granted by an acquisition at generation `generation`. -/
def grantedLease (input : AcquireReleasedRun) (generation now expiresAtMs : Nat) : RunLease :=
  { runId := input.runId, ownerId := input.ownerId, owner := input.owner, generation,
    acquiredAtMs := now, renewedAtMs := now, expiresAtMs, released := false }

theorem GrantAllowed.valid {input : AcquireReleasedRun} {generation clock : Nat}
    (allowed : GrantAllowed input generation clock) :
    (grantedLease input generation clock (clock + runLeaseDurationMs)).Valid := by
  obtain ⟨runId, ownerId, owner⟩ := validateAcquisition_ok.mp allowed.inputValid
  exact ⟨runId, ownerId, allowed.generationValid, owner, allowed.clockValid, allowed.clockValid,
    allowed.expiryValid, Nat.le_refl _, Nat.le_add_right _ _⟩

theorem positive_succ {generation : Nat} (bound : generation + 1 ≤ maxSafeInteger) :
    positive (generation + 1) = true := by
  simp [positive, bound]

/-- The lease after a renewal at clock reading `now`. -/
def renewedLease (lease : RunLease) (now : Nat) : RunLease :=
  { lease with
    renewedAtMs := max now lease.renewedAtMs
    expiresAtMs := max now lease.renewedAtMs + runLeaseDurationMs }

theorem RunLease.Valid.renewed {lease : RunLease} {now : Nat} (valid : lease.Valid)
    (clock : positive now = true)
    (expiry : positive (max now lease.renewedAtMs + runLeaseDurationMs) = true) :
    (renewedLease lease now).Valid := by
  have renewed : positive (max now lease.renewedAtMs) = true := by
    rcases Nat.le_total now lease.renewedAtMs with earlier | later
    · rw [Nat.max_eq_right earlier]
      exact valid.renewedAtMs
    · rw [Nat.max_eq_left later]
      exact clock
  exact ⟨valid.runId, valid.ownerId, valid.generation, valid.owner, valid.acquiredAtMs, renewed,
    expiry, Nat.le_trans valid.acquired_renewed (Nat.le_max_right _ _), Nat.le_add_right _ _⟩

theorem RunLease.Valid.released {lease : RunLease} (valid : lease.Valid) (released : Bool) :
    ({ lease with released } : RunLease).Valid :=
  ⟨valid.runId, valid.ownerId, valid.generation, valid.owner, valid.acquiredAtMs,
    valid.renewedAtMs, valid.expiresAtMs, valid.acquired_renewed, valid.renewed_expires⟩

theorem checkOffsets_ok {runId : String} {expectedSequence index : Nat} {events : List RunEvent}
    {u : Unit} : checkOffsets runId expectedSequence index events = .ok u ↔
      ∀ i (inside : i < events.length), expectedSequence + index + i + 1 ≤ maxSafeInteger ∧
        (events[i]).runId = runId ∧ (events[i]).sequence = expectedSequence + index + i + 1 := by
  induction events generalizing index with
  | nil => simp [checkOffsets]
  | cons event rest ih =>
    simp only [checkOffsets, require_bind_ok, Bool.and_eq_true, decide_eq_true_eq, beq_iff_eq, ih]
    constructor
    · rintro ⟨⟨⟨bound, run⟩, sequence⟩, each⟩ i inside
      cases i with
      | zero => exact ⟨bound, run, sequence⟩
      | succ i =>
        have := each i (by simpa using inside)
        rw [List.getElem_cons_succ]
        have shift : expectedSequence + index + (i + 1) = expectedSequence + (index + 1) + i := by
          omega
        rw [shift]
        exact this
    · intro each
      refine ⟨⟨⟨(each 0 (by simp)).1, (each 0 (by simp)).2.1⟩, (each 0 (by simp)).2.2⟩, ?_⟩
      intro i inside
      have := each (i + 1) (by simpa using inside)
      rw [List.getElem_cons_succ] at this
      have shift : expectedSequence + index + (i + 1) = expectedSequence + (index + 1) + i := by
        omega
      rw [shift] at this
      exact this

/-- What the envelope check of a mutation admits. -/
structure FencedRunMutation.Valid (input : FencedRunMutation) : Prop where
  lease : assertRunLeaseToken input.lease = .ok ()
  operationId : Text.identifier input.operationId = true
  expectedSequence : input.expectedSequence ≤ maxSafeInteger
  events : input.events ≠ []
  offsets : ∀ i (inside : i < input.events.length),
    input.expectedSequence + i + 1 ≤ maxSafeInteger ∧
      (input.events[i]).runId = input.lease.runId ∧
      (input.events[i]).sequence = input.expectedSequence + i + 1
  handles : input.handlesControlOperationId.all Text.identifier = true

theorem validateMutation_ok {input : FencedRunMutation} {u : Unit} :
    validateMutation input = .ok u ↔ input.Valid := by
  unfold validateMutation
  simp only [bind_ok, assertIdentifier_ok, require_ok, checkOffsets_ok, Bool.not_eq_true',
    List.isEmpty_eq_false_iff, nonnegative, decide_eq_true_eq, Nat.add_zero]
  constructor
  · rintro ⟨_, lease, _, operationId, _, expected, _, events, _, offsets, handles⟩
    refine ⟨lease, operationId, expected, events, offsets, ?_⟩
    cases handled : input.handlesControlOperationId with
    | none => rfl
    | some control => simpa [handled] using handles
  · rintro ⟨lease, operationId, expected, events, offsets, handles⟩
    refine ⟨(), lease, (), operationId, (), expected, (), events, (), offsets, ?_⟩
    cases handled : input.handlesControlOperationId with
    | none => rfl
    | some control => simpa [handled] using handles

theorem FencedRunMutation.Valid.validated {input : FencedRunMutation} (valid : input.Valid) :
    validateMutation input = .ok () := validateMutation_ok.mpr valid

theorem FencedRunMutation.Valid.sequences {input : FencedRunMutation} (valid : input.Valid) :
    input.events.map RunEvent.sequence =
      List.range' (input.expectedSequence + 1) input.events.length := by
  apply List.ext_getElem
  · simp
  · intro i inside _
    have := (valid.offsets i (by simpa using inside)).2.2
    simp only [List.getElem_map, List.getElem_range', this]
    omega

/-- A contiguous history ends at its length. -/
theorem lastSequence_of_contiguous {events : List RunEvent}
    (contiguous : events.map RunEvent.sequence = List.range' 1 events.length) :
    lastSequence events = events.length := by
  have last : events.getLast?.map RunEvent.sequence = (List.range' 1 events.length).getLast? := by
    rw [← contiguous, List.getLast?_map]
  rw [lastSequence, last, List.getLast?_range']
  split
  · simp_all
  · simp only [Option.getD_some]
    omega

theorem FencedRunMutation.Valid.receipt {input : FencedRunMutation} (valid : input.Valid) :
    receiptFor input =
      { runId := input.lease.runId, operationId := input.operationId,
        firstSequence := input.expectedSequence + 1,
        lastSequence := input.expectedSequence + input.events.length, replayed := false } := by
  have sequences := valid.sequences
  obtain ⟨first, rest, split⟩ := List.exists_cons_of_ne_nil valid.events
  have head : input.events.head?.map RunEvent.sequence = some (input.expectedSequence + 1) := by
    rw [← List.head?_map, sequences, split]
    rfl
  have last : input.events.getLast?.map RunEvent.sequence =
      some (input.expectedSequence + input.events.length) := by
    rw [← List.getLast?_map, sequences, List.getLast?_range', split]
    simp
    omega
  simp only [receiptFor, lastSequence, head, last, Option.getD_some]

@[simp] theorem RunSnapshot.same_refl (snapshot : RunSnapshot) : snapshot.same snapshot = true := by
  simp [RunSnapshot.same]

theorem extendPrefix_append (hash : Hash) (previous : String) (first rest : List RunEvent) :
    extendPrefix hash previous (first ++ rest) =
      extendPrefix hash (extendPrefix hash previous first) rest :=
  List.foldl_append

theorem extendPrefix_digest (hash : Hash) {previous : String} (events : List RunEvent)
    (valid : Text.digest previous = true) : Text.digest (extendPrefix hash previous events) = true := by
  induction events generalizing previous with
  | nil => exact valid
  | cons event rest ih => exact ih (hash.wellFormed _)

/-- A state whose canonical text a snapshot may hold. -/
def RunState.Fits (state : RunState) : Prop :=
  (Json.canonicalJson state.toJson).utf8ByteSize ≤ runSnapshotMaxBytes

instance (state : RunState) : Decidable state.Fits :=
  inferInstanceAs (Decidable (_ ≤ runSnapshotMaxBytes))

theorem createRunSnapshotFromState_ok {platform : Platform} {workflow : WorkflowDefinition}
    {state : RunState} {digest : String} {snapshot : RunSnapshot} :
    createRunSnapshotFromState platform workflow state digest = .ok snapshot ↔
      assertWorkflowDefinition platform.ajv workflow = true ∧
      stateMatchesWorkflow state workflow = true ∧ Text.digest digest = true ∧ state.Fits ∧
      snapshotOf platform.hash workflow state digest = snapshot := by
  simp only [createRunSnapshotFromState, assertStateMatchesWorkflow, require_bind_ok,
    decide_eq_true_eq, pure_ok, RunState.Fits]

/-- The snapshot of a history: its folded state under its cumulative digest. -/
theorem createRunSnapshot_ok {platform : Platform} {workflow : WorkflowDefinition}
    {events : List RunEvent} {snapshot : RunSnapshot} :
    createRunSnapshot platform workflow events = .ok snapshot ↔
      assertWorkflowDefinition platform.ajv workflow = true ∧
      ∃ state, replayRun events = .ok state ∧ stateMatchesWorkflow state workflow = true ∧
        state.Fits ∧ snapshotOf platform.hash workflow state
          (extendPrefix platform.hash platform.hash.emptyEventHistoryDigest events) = snapshot := by
  simp only [createRunSnapshot, assertStateMatchesWorkflow, require_bind_ok]
  have digest : Text.digest (extendPrefix platform.hash platform.hash.emptyEventHistoryDigest
      events) = true := extendPrefix_digest platform.hash events (platform.hash.wellFormed _)
  refine and_congr_right fun accepted => ?_
  rw [bind_ok]
  refine exists_congr fun state => and_congr_right fun _ => ?_
  rw [require_bind_ok]
  refine and_congr_right fun same => ?_
  rw [createRunSnapshotFromState_ok]
  exact ⟨fun ⟨_, _, _, fits, equal⟩ => ⟨fits, equal⟩,
    fun ⟨fits, equal⟩ => ⟨accepted, same, digest, fits, equal⟩⟩

theorem assertRunSnapshot_ok {platform : Platform} {snapshot : RunSnapshot}
    {workflow : WorkflowDefinition} {events : List RunEvent} {u : Unit} :
    assertRunSnapshot platform snapshot workflow events = .ok u ↔
      ∃ expected, createRunSnapshot platform workflow events = .ok expected ∧
        snapshot.same expected = true := by
  simp only [assertRunSnapshot, bind_ok, require_ok]

theorem validateCreateOwnedRun_ok {platform : Platform} {input : CreateOwnedRun} {u : Unit} :
    validateCreateOwnedRun platform input = .ok u ↔
    validateAcquisition { runId := input.runId, ownerId := input.ownerId, owner := input.owner } =
      .ok () ∧ Text.identifier input.operationId = true ∧
    assertWorkflowDefinition platform.ajv input.workflow = true ∧
    assertRunSnapshot platform input.snapshot input.workflow input.initialEvents = .ok () ∧
    ∃ state, replayRun input.initialEvents = .ok state ∧ state.runId = input.runId ∧
      stateMatchesWorkflow state input.workflow = true := by
  simp only [validateCreateOwnedRun, assertIdentifier, assertOwnerId, assertLocalProcessIdentity,
    assertStateMatchesWorkflow, require_bind_ok, validateAcquisition_ok]
  constructor
  · rintro ⟨runId, ownerId, owner, operationId, workflow, _, valid⟩
    obtain ⟨state, replayed, valid⟩ := bind_ok.mp valid
    simp only [require_bind_ok, beq_iff_eq] at valid
    exact ⟨⟨runId, ownerId, owner⟩, operationId, workflow, valid.2.2, state, replayed, valid.1,
      valid.2.1⟩
  · rintro ⟨⟨runId, ownerId, owner⟩, operationId, workflow, snapshot, state, replayed, sameRun,
      same⟩
    refine ⟨runId, ownerId, owner, operationId, workflow, ?_, bind_ok.mpr ⟨state, replayed, ?_⟩⟩
    · simpa using replayRun_nonempty replayed
    · simp only [require_bind_ok, beq_iff_eq]
      exact ⟨sameRun, same, snapshot⟩

theorem creationMutation_valid {platform : Platform} {input : CreateOwnedRun} {u : Unit}
    (valid : validateCreateOwnedRun platform input = .ok u) : (creationMutation input).Valid := by
  obtain ⟨acquisition, operationId, _, _, state, replayed, sameRun, _⟩ :=
    validateCreateOwnedRun_ok.mp valid
  obtain ⟨runId, ownerId, _⟩ := validateAcquisition_ok.mp acquisition
  obtain ⟨sequences, _⟩ := replayRun_sequence replayed
  refine ⟨assertRunLeaseToken_ok.mpr ⟨runId, ownerId, rfl⟩, operationId, Nat.zero_le _,
    replayRun_nonempty replayed, ?_, rfl⟩
  intro i inside
  have sequence := sequences i inside
  have bound := replayRun_bounded replayed (input.initialEvents[i]) (List.getElem_mem inside)
  have run := replayRun_runId replayed (input.initialEvents[i]) (List.getElem_mem inside)
  simp only [creationMutation, Nat.zero_add]
  exact ⟨sequence ▸ bound, run.trans sameRun, sequence⟩

end Anastom
