import Anastom.Engine.StartEvidence

/-! The evidence of a run refers only to what the run recorded: artifacts stay as they were
produced, every artifact named by other evidence is among them, and cleanups name the
execution that their attempt planned. -/
namespace Anastom
open RunEventPayload

/-- An artifact of this run is recorded under an id. -/
def RunState.Recorded (state : RunState) (id : String) : Prop :=
  ∃ artifact ∈ state.artifacts, artifact.id = id ∧ artifact.producer.runId = state.runId

/-- An artifact that one attempt of this run produced is recorded under an id. -/
def RunState.RecordedBy (state : RunState) (nodeId : String) (number : Nat) (id : String) : Prop :=
  ∃ artifact ∈ state.artifacts, artifact.id = id ∧
    artifact.producer = { runId := state.runId, nodeId, attempt := number }

/-- A later state of the same run, with the artifacts of the earlier one before its own. -/
structure RunState.Extends (state after : RunState) : Prop where
  runId : after.runId = state.runId
  artifacts : state.artifacts <+: after.artifacts

namespace RunState.Extends
variable {state after final : RunState}

theorem refl (state : RunState) : state.Extends state :=
  ⟨rfl, List.prefix_refl _⟩

theorem trans (first : state.Extends after) (second : after.Extends final) :
    state.Extends final :=
  ⟨second.runId.trans first.runId, first.artifacts.trans second.artifacts⟩

theorem recorded (extension : state.Extends after) {id : String} (recorded : state.Recorded id) :
    after.Recorded id := by
  obtain ⟨artifact, member, same, producer⟩ := recorded
  exact ⟨artifact, extension.artifacts.subset member, same, producer.trans extension.runId.symm⟩

theorem recordedBy (extension : state.Extends after) {nodeId : String} {number : Nat} {id : String}
    (recorded : state.RecordedBy nodeId number id) : after.RecordedBy nodeId number id := by
  obtain ⟨artifact, member, same, producer⟩ := recorded
  refine ⟨artifact, extension.artifacts.subset member, same, ?_⟩
  rw [extension.runId]
  exact producer

end RunState.Extends

/-- An event adds one artifact at most, and removes none. -/
theorem effect_artifacts (payload : RunEventPayload) (state : RunState) :
    (payload.effect state).artifacts = state.artifacts ∨
      ∃ nodeId number artifact, payload = .artifactProduced nodeId number artifact ∧
        (payload.effect state).artifacts = state.artifacts ++ [artifact] := by
  cases payload
  case artifactProduced nodeId number artifact => exact .inr ⟨nodeId, number, artifact, rfl, rfl⟩
  case runCompleted outcome => cases outcome <;> exact .inl rfl
  case runtimeEventObserved nodeId number event => cases event <;> exact .inl rfl
  case nodePaused nodeId reason => cases reason <;> exact .inl rfl
  all_goals exact .inl rfl

theorem effect_extends (payload : RunEventPayload) (state : RunState) :
    state.Extends (payload.effect state) := by
  refine ⟨effect_runId payload state, ?_⟩
  rcases effect_artifacts payload state with same | ⟨_, _, artifact, _, added⟩
  · exact ⟨[], by rw [List.append_nil, same]⟩
  · exact ⟨[artifact], added.symm⟩

theorem replayRun_extends {events later : List RunEvent} {state final : RunState}
    (replayed : replayRun events = .ok state)
    (continued : replayRun (events ++ later) = .ok final) : state.Extends final := by
  refine replayRun_extension (P := fun after => state.Extends after) replayed (.refl state) ?_
    continued
  intro history before event next _ extension applied
  obtain ⟨_, _, _, _, _, rfl⟩ := applyRunEvent_step.mp applied
  have step := effect_extends event.payload before
  exact extension.trans ⟨step.runId, step.artifacts⟩

/-- Every artifact of a run names that run as its producer. -/
theorem replayRun_produced {events : List RunEvent} {state : RunState}
    (replayed : replayRun events = .ok state) :
    ∀ artifact ∈ state.artifacts, artifact.producer.runId = state.runId := by
  refine replayRun_induction
    (P := fun _ state => ∀ artifact ∈ state.artifacts, artifact.producer.runId = state.runId)
    ?_ ?_ replayed
  · intro event state applied
    obtain ⟨_, created⟩ := applyRunEvent_none_ok.mp applied
    cases payload : event.payload <;> rw [payload] at created <;>
      simp only [createdState, require_bind_ok, pure_ok, reduceCtorEq] at created
    obtain ⟨_, rfl⟩ := created
    simp
  · intro history state event next _ produced applied
    obtain ⟨_, _, _, _, accepted, rfl⟩ := applyRunEvent_step.mp applied
    show ∀ artifact ∈ (event.payload.effect state).artifacts,
      artifact.producer.runId = (event.payload.effect state).runId
    rw [effect_runId]
    rcases effect_artifacts event.payload state with same | ⟨_, _, artifact, payload, added⟩
    · rw [same]
      exact produced
    · rw [added, List.forall_mem_append, List.forall_mem_singleton]
      rw [payload] at accepted
      obtain ⟨_, _, _, producer⟩ := accepted
      exact ⟨produced, congrArg ArtifactProducer.runId producer⟩

theorem recorded_of_hasArtifact {state : RunState} {id : String}
    (produced : ∀ artifact ∈ state.artifacts, artifact.producer.runId = state.runId)
    (present : state.hasArtifact id = true) : state.Recorded id := by
  obtain ⟨artifact, member, same⟩ := List.any_eq_true.mp present
  exact ⟨artifact, member, beq_iff_eq.mp same, produced artifact member⟩

/-- No identifier is the empty text, which the reducer takes for an absent one. -/
theorem Text.identifier_ne_empty {s : String} (valid : Text.identifier s = true) : s ≠ "" := by
  rintro rfl
  cases valid

theorem recordedBy_of_checkpoint {state : RunState} {nodeId : String} {number : Nat}
    {checkpoint : WorkspaceCheckpoint} (valid : checkpoint.valid = true)
    (recorded : state.checkpointArtifactRecorded nodeId number checkpoint = true) :
    ∀ id ∈ checkpoint.diffArtifactId, state.RecordedBy nodeId number id := by
  intro id named
  have named : checkpoint.diffArtifactId = some id := named
  unfold WorkspaceCheckpoint.valid at valid
  unfold RunState.checkpointArtifactRecorded at recorded
  rw [Bool.and_eq_true, named] at valid
  rw [named, Option.all_some, Bool.or_eq_true, String.isEmpty_iff] at recorded
  obtain ⟨artifact, member, same⟩ := List.any_eq_true.mp
    (recorded.resolve_left (Text.identifier_ne_empty valid.2))
  rw [Bool.and_eq_true, beq_iff_eq, decide_eq_true_eq] at same
  exact ⟨artifact, member, same.1, same.2⟩

/-- The evidence of an attempt names artifacts that its run recorded, and cleanups name the
execution that it planned, once for each cause. -/
structure AttemptState.EvidenceIntact (state : RunState) (nodeId : String)
    (attempt : AttemptState) : Prop where
  checkpoint : ∀ checkpoint ∈ attempt.workspaceCheckpoint, ∀ id ∈ checkpoint.diffArtifactId,
    state.RecordedBy nodeId attempt.number id
  observation : ∀ record ∈ attempt.orphan, ∀ id ∈ record.workspaceObservation.diffArtifactId,
    state.RecordedBy nodeId attempt.number id
  terminal : ∀ record ∈ attempt.orphan, ∀ id ∈ record.terminalArtifactId, state.Recorded id
  cleanup : ∀ evidence ∈ attempt.cleanup,
    ∃ plan, attempt.executionPlan = some plan ∧ plan.executionId = evidence.executionId
  causes : (attempt.cleanup.map CleanupEvidence.cause).Nodup

/-- The fields of an attempt that refer to other evidence. -/
structure AttemptState.SameReferences (attempt after : AttemptState) : Prop where
  number : after.number = attempt.number
  executionPlan : after.executionPlan = attempt.executionPlan
  workspaceCheckpoint : after.workspaceCheckpoint = attempt.workspaceCheckpoint
  orphan : after.orphan = attempt.orphan
  cleanup : after.cleanup = attempt.cleanup

namespace AttemptState.EvidenceIntact
variable {state next : RunState} {nodeId : String} {attempt after : AttemptState}

theorem scheduled (number : Nat) (runtimeId : String) :
    EvidenceIntact state nodeId { number, runtimeId, status := .scheduled } := by
  constructor <;> simp

theorem transport (intact : attempt.EvidenceIntact state nodeId)
    (extension : state.Extends next) : attempt.EvidenceIntact next nodeId where
  checkpoint checkpoint set id named :=
    extension.recordedBy (intact.checkpoint checkpoint set id named)
  observation record set id named := extension.recordedBy (intact.observation record set id named)
  terminal record set id named := extension.recorded (intact.terminal record set id named)
  cleanup := intact.cleanup
  causes := intact.causes

theorem same (intact : attempt.EvidenceIntact state nodeId)
    (references : attempt.SameReferences after) : after.EvidenceIntact state nodeId := by
  obtain ⟨number, executionPlan, workspaceCheckpoint, orphan, cleanup⟩ := references
  constructor
  · rw [workspaceCheckpoint, number]
    exact intact.checkpoint
  · rw [orphan, number]
    exact intact.observation
  · rw [orphan]
    exact intact.terminal
  · rw [cleanup, executionPlan]
    exact intact.cleanup
  · rw [cleanup]
    exact intact.causes

/-- Only an attempt with a plan has cleanups. -/
theorem no_cleanup (intact : attempt.EvidenceIntact state nodeId)
    (unplanned : attempt.executionPlan = none) : attempt.cleanup = [] := by
  rw [List.eq_nil_iff_forall_not_mem]
  intro evidence member
  obtain ⟨plan, planned, _⟩ := intact.cleanup evidence member
  rw [unplanned] at planned
  cases planned

end AttemptState.EvidenceIntact

/-- What an event does to the references of its node's attempts. -/
inductive RunEventPayload.ReferenceChange (payload : RunEventPayload) (state : RunState)
    (node next : NodeRunState) : Prop
  | same (attempts : next.attempts = node.attempts)
  | scheduled (number : Nat) (runtimeId : String)
      (attempts : next.attempts = node.attempts ++ [{ number, runtimeId, status := .scheduled }])
  | rewritten (attempt after : AttemptState) (current : node.current = some attempt)
      (attempts : next.attempts = node.attempts.dropLast ++ [after])
      (kept : attempt.EvidenceIntact state node.id → after.EvidenceIntact state node.id)

/-- Each event that refers to an artifact or an execution checks that it is recorded. -/
theorem RunEventPayload.Moves.references {payload : RunEventPayload} {state : RunState}
    {node next : NodeRunState} (valid : EventValidation.payload payload = true)
    (produced : ∀ artifact ∈ state.artifacts, artifact.producer.runId = state.runId)
    (staged : ∀ attempt ∈ node.attempts, attempt.Staged state)
    (moves : payload.Moves state node next) : payload.ReferenceChange state node next := by
  obtain ⟨_, guard, f, change, rfl⟩ := moves
  have rewrite {attempt : AttemptState} {changed : NodeRunState} (g : AttemptState → AttemptState)
      (current : node.current = some attempt)
      (attempts : changed.attempts = (node.updateCurrent g).attempts)
      (kept : attempt.EvidenceIntact state node.id → (g attempt).EvidenceIntact state node.id) :
      payload.ReferenceChange state node changed :=
    .rewritten attempt (g attempt) current (attempts.trans (updateCurrent_attempts current g)) kept
  have quiet {attempt : AttemptState} {changed : NodeRunState} (g : AttemptState → AttemptState)
      (current : node.current = some attempt)
      (attempts : changed.attempts = (node.updateCurrent g).attempts)
      (references : attempt.SameReferences (g attempt)) :
      payload.ReferenceChange state node changed :=
    rewrite g current attempts fun intact => intact.same references
  cases payload
  case attemptScheduled nodeId number runtimeId =>
    obtain ⟨rfl, rfl⟩ := Prod.mk.inj (Option.some.inj change)
    exact .scheduled number runtimeId rfl
  case attemptPrepared nodeId number execution checkpoint =>
    obtain ⟨rfl, rfl⟩ := Prod.mk.inj (Option.some.inj change)
    obtain ⟨_, attempt, ⟨current, rfl, waiting⟩, allowed⟩ := guard
    refine rewrite _ current rfl fun intact => ?_
    have unplanned := ((staged attempt (List.mem_of_getLast? current)).scheduled waiting).1
    have clean := intact.no_cleanup unplanned
    refine ⟨?_, intact.observation, intact.terminal, ?_, intact.causes⟩
    · rintro _ ⟨⟩
      refine recordedBy_of_checkpoint ?_ allowed.artifact
      simp only [EventValidation.payload, Bool.and_eq_true] at valid
      exact valid.2
    · simp [clean]
  case attemptStartAuthorized nodeId number execution =>
    obtain ⟨rfl, rfl⟩ := Prod.mk.inj (Option.some.inj change)
    obtain ⟨_, attempt, ⟨current, _⟩, _⟩ := guard
    exact quiet _ current rfl ⟨rfl, rfl, rfl, rfl, rfl⟩
  case attemptStarted nodeId number =>
    obtain ⟨rfl, rfl⟩ := Prod.mk.inj (Option.some.inj change)
    obtain ⟨_, _, attempt, current, _⟩ := guard
    exact quiet _ current rfl ⟨rfl, rfl, rfl, rfl, rfl⟩
  case attemptOrphaned nodeId number record =>
    obtain ⟨rfl, rfl⟩ := Prod.mk.inj (Option.some.inj change)
    obtain ⟨_, ⟨attempt, _, current, rfl, _⟩, terminal, observation⟩ := guard
    simp only [EventValidation.payload, EventValidation.orphanRecord, Bool.and_eq_true] at valid
    obtain ⟨_, ⟨⟨_, checkpoint⟩, _⟩, identifier⟩ := valid
    refine rewrite _ current rfl fun intact => ?_
    refine ⟨intact.checkpoint, ?_, ?_, intact.cleanup, intact.causes⟩
    · rintro _ ⟨⟩
      exact recordedBy_of_checkpoint checkpoint observation
    · rintro _ ⟨⟩ id named
      have named : record.terminalArtifactId = some id := named
      rw [named] at identifier
      exact recorded_of_hasArtifact produced
        (terminal id named (Text.identifier_ne_empty identifier))
  case attemptSucceeded | attemptFailed | attemptBlocked | attemptCancelled =>
    obtain ⟨rfl, rfl⟩ := Prod.mk.inj (Option.some.inj change)
    obtain ⟨_, attempt, ⟨current, _⟩, _⟩ := guard
    exact quiet _ current rfl ⟨rfl, rfl, rfl, rfl, rfl⟩
  case attemptTimeoutRequested nodeId number =>
    obtain ⟨rfl, rfl⟩ := Prod.mk.inj (Option.some.inj change)
    obtain ⟨_, attempt, ⟨current, _⟩, _⟩ := guard
    exact quiet _ current rfl ⟨rfl, rfl, rfl, rfl, rfl⟩
  case attemptCancellationCompleted | lateResultObserved =>
    obtain ⟨rfl, rfl⟩ := Prod.mk.inj (Option.some.inj change)
    obtain ⟨attempt, _, ⟨current, _⟩, _⟩ := guard
    exact quiet _ current rfl ⟨rfl, rfl, rfl, rfl, rfl⟩
  case executionCleanupObserved nodeId number evidence =>
    obtain ⟨rfl, rfl⟩ := Prod.mk.inj (Option.some.inj change)
    obtain ⟨attempt, plan, current, _, _, planned, own, fresh⟩ := guard
    refine rewrite _ current rfl fun intact => ?_
    -- all earlier cleanups name the same execution, so the guard compares their causes
    have earlier (item : CleanupEvidence) (member : item ∈ attempt.cleanup) :
        item.executionId = evidence.executionId := by
      obtain ⟨other, same, names⟩ := intact.cleanup item member
      rw [planned, Option.some.injEq] at same
      rw [← names, ← own, same]
    refine ⟨intact.checkpoint, intact.observation, intact.terminal, ?_, ?_⟩
    · rw [List.forall_mem_append, List.forall_mem_singleton]
      exact ⟨intact.cleanup, plan, planned, own⟩
    · rw [List.map_append, List.map_singleton, ← List.concat_eq_append, List.nodup_concat]
      refine ⟨?_, intact.causes⟩
      rw [List.mem_map]
      rintro ⟨item, member, same⟩
      exact fresh item member (earlier item member) same
  case runtimeEventObserved nodeId number event =>
    obtain ⟨_, attempt, ⟨current, _⟩, _⟩ := guard
    cases event <;> cases change
    all_goals exact quiet _ current rfl ⟨rfl, rfl, rfl, rfl, rfl⟩
  case nodePaused nodeId reason =>
    cases reason <;> cases change
    all_goals exact .same rfl
  all_goals cases change
  all_goals exact .same rfl

theorem RunEventPayload.ReferenceChange.intact {payload : RunEventPayload} {state : RunState}
    {node next : NodeRunState} (change : payload.ReferenceChange state node next)
    (intact : ∀ attempt ∈ node.attempts, attempt.EvidenceIntact state node.id) :
    ∀ attempt ∈ next.attempts, attempt.EvidenceIntact state node.id := by
  cases change with
  | same attempts =>
    rw [attempts]
    exact intact
  | scheduled number runtimeId attempts =>
    rw [attempts, List.forall_mem_append, List.forall_mem_singleton]
    exact ⟨intact, .scheduled number runtimeId⟩
  | rewritten attempt after current attempts kept =>
    rw [attempts, List.forall_mem_append, List.forall_mem_singleton]
    refine ⟨fun other earlier => intact other (List.dropLast_subset _ earlier), ?_⟩
    exact kept (intact attempt (List.mem_of_getLast? current))

/-- All evidence of a state refers to what the state records. -/
structure RunState.EvidenceIntact (state : RunState) : Prop where
  produced : ∀ artifact ∈ state.artifacts, artifact.producer.runId = state.runId
  observation : ∀ observation ∈ state.workspaceObservation,
    state.Recorded observation.diffArtifactId
  attempts : ∀ node ∈ state.nodes, ∀ attempt ∈ node.attempts,
    attempt.EvidenceIntact state node.id

theorem replayRun_observation {events : List RunEvent} {state : RunState}
    (replayed : replayRun events = .ok state) :
    ∀ observation ∈ state.workspaceObservation, state.Recorded observation.diffArtifactId := by
  refine replayRun_induction (P := fun _ state => ∀ observation ∈ state.workspaceObservation,
    state.Recorded observation.diffArtifactId) ?_ ?_ replayed
  · intro event state applied
    obtain ⟨_, created⟩ := applyRunEvent_none_ok.mp applied
    cases payload : event.payload <;> rw [payload] at created <;>
      simp only [createdState, require_bind_ok, pure_ok, reduceCtorEq] at created
    obtain ⟨_, rfl⟩ := created
    simp
  · intro history state event next earlier recorded applied
    obtain ⟨_, _, _, _, accepted, rfl⟩ := applyRunEvent_step.mp applied
    have kept (same : (event.payload.effect state).workspaceObservation =
        state.workspaceObservation) :
        ∀ observation ∈ (event.payload.effect state).workspaceObservation,
          (event.payload.effect state).Recorded observation.diffArtifactId := by
      rw [same]
      intro observation set
      exact (effect_extends _ state).recorded (recorded observation set)
    show ∀ observation ∈ (event.payload.effect state).workspaceObservation,
      (event.payload.effect state).Recorded observation.diffArtifactId
    cases payload : event.payload <;> rw [payload] at accepted kept
    case workspaceObserved nodeId number headCommit changedFiles diffArtifactId =>
      obtain ⟨_, _, _, present⟩ := accepted
      rintro _ ⟨⟩
      have recorded := recorded_of_hasArtifact (replayRun_produced earlier) present
      exact (effect_extends _ state).recorded recorded
    case runCompleted outcome => cases outcome <;> exact kept rfl
    case runtimeEventObserved nodeId number observed => cases observed <;> exact kept rfl
    case nodePaused nodeId reason => cases reason <;> exact kept rfl
    all_goals exact kept rfl

theorem replayRun_evidence {events : List RunEvent} {state : RunState}
    (replayed : replayRun events = .ok state) : state.EvidenceIntact := by
  refine ⟨replayRun_produced replayed, replayRun_observation replayed, ?_⟩
  have found : ∀ {id node}, state.node? id = some node →
      ∀ attempt ∈ node.attempts, attempt.EvidenceIntact state node.id := by
    refine replayRun_induction (P := fun _ state => ∀ {id node}, state.node? id = some node →
      ∀ attempt ∈ node.attempts, attempt.EvidenceIntact state node.id) ?_ ?_ replayed
    · intro event state applied id node found attempt member
      rw [(createdState_nodes applied).2 node (Keyed.find_mem found)] at member
      cases member
    · intro history state event next earlier intact applied id node found attempt member
      obtain ⟨valid, _, _, _, accepted, rfl⟩ := applyRunEvent_step.mp applied
      have extension : state.Extends
          { event.payload.effect state with sequence := event.sequence } :=
        ⟨(effect_extends _ state).runId, (effect_extends _ state).artifacts⟩
      obtain ⟨before, present, ⟨rfl, _⟩ | moves⟩ := effect_node accepted found
      · exact (intact present attempt member).transport extension
      · rw [validRunEvent, Bool.and_eq_true] at valid
        have change := moves.references valid.2 (replayRun_produced earlier)
          (replayRun_staged earlier present)
        rw [moves.id]
        exact (change.intact (intact present) attempt member).transport extension
  exact fun node member => found (replayRun_node? replayed member)

/-- A block for an unknown cleanup is accepted only with that cleanup of an execution that
an attempt of the run planned. -/
def UnknownCleanupRecorded (before : RunState) (event : RunEvent) : Prop :=
  ∀ operationId executionId,
    event.payload = .runRecoveryBlocked operationId (.cleanupUnknown executionId) →
    ∃ node ∈ before.nodes, ∃ attempt ∈ node.attempts, ∃ plan,
      attempt.executionPlan = some plan ∧ plan.executionId = executionId ∧
      ∃ evidence ∈ attempt.cleanup,
        evidence.executionId = executionId ∧ evidence.outcome = .unknown

theorem unknownCleanupRecorded_step {state : RunState} {event : RunEvent}
    (accepted : event.payload.Accepts state) : UnknownCleanupRecorded state event := by
  intro operationId executionId payload
  rw [payload] at accepted
  obtain ⟨_, attempt, owner, evidence⟩ := accepted
  have planned := List.find?_some owner
  obtain ⟨node, member, current⟩ := List.mem_filterMap.mp (List.mem_of_find?_eq_some owner)
  obtain ⟨plan, set, own⟩ := (Option.any_eq_true _ _).mp planned
  exact ⟨node, member, attempt, List.mem_of_getLast? current, plan, set, beq_iff_eq.mp own,
    evidence⟩

/-- The evidence of a replayed run is intact, its artifacts are kept by every longer history,
and no event blocked it for an unknown cleanup without the evidence. -/
theorem replayRun_evidence_intact {events : List RunEvent} {state : RunState}
    (replayed : replayRun events = .ok state) :
    state.EvidenceIntact ∧
    (∀ later final, replayRun (events ++ later) = .ok final →
      state.artifacts <+: final.artifacts) ∧
    Applied UnknownCleanupRecorded events := by
  refine ⟨replayRun_evidence replayed, ?_, ?_⟩
  · intro later final continued
    exact (replayRun_extends replayed continued).artifacts
  · refine replayRun_induction (P := fun events _ => Applied UnknownCleanupRecorded events) ?_ ?_
      replayed
    · intro event state _
      exact applied_single _ event
    · intro history state event next earlier law applied
      obtain ⟨_, _, _, _, accepted, rfl⟩ := applyRunEvent_step.mp applied
      exact (applied_concat earlier).mpr ⟨law, unknownCleanupRecorded_step accepted⟩

def sampleArtifact : ArtifactRef :=
  { id := "diff", type := "git-diff", mediaType := "text/x-diff", uri := "artifact:diff",
    digest := sampleDigest
    producer := { runId := "run", nodeId := "build", attempt := 1 } }

def sampleObservation : WorkspaceCheckpoint :=
  { sampleCheckpoint with diffArtifactId := some "diff" }

def lostExecution : OrphanRecord :=
  { executionId := "execution", lostGeneration := 1, reason := .coordinatorLost,
    workspaceObservation := sampleObservation, workspaceDifferences := [],
    terminalArtifactId := some "diff" }

def unknownCleanup : CleanupEvidence :=
  { executionId := "execution", cause := .recovery, outcome := .unknown }

/-- A run whose attempt is lost, with a cleanup that stays unknown and blocks the run. -/
def blockedRun : List RunEvent :=
  numbered "run" [.runCreated "instance" "workflow" "1.0.0" ["build"] [],
    .runtimeConfigured sampleDescriptor, .nodeReady "build" .dependenciesSatisfied,
    .attemptScheduled "build" 1 "agent", .artifactProduced "build" 1 sampleArtifact,
    .attemptPrepared "build" 1 samplePlan sampleObservation,
    .executionCleanupObserved "build" 1 unknownCleanup,
    .attemptOrphaned "build" 1 lostExecution,
    .runRecoveryBlocked "operation" (.cleanupUnknown "execution")]

def blockedState : RunState :=
  { runId := "run", workflowInstanceId := "instance", workflowId := "workflow",
    workflowVersion := "1.0.0", status := .recoveryBlocked, sequence := 9, inputs := [],
    runtimeDescriptor := some sampleDescriptor, artifacts := [sampleArtifact]
    recoveryBlock := some { operationId := "operation", reason := .cleanupUnknown "execution" }
    nodes := [{ id := "build", status := .running,
                attempts := [{ number := 1, runtimeId := "agent", status := .orphaned,
                               executionPlan := some samplePlan, cleanup := [unknownCleanup],
                               workspaceCheckpoint := some sampleObservation,
                               orphan := some lostExecution }] }] }

theorem blockedRun_replayed : replayRun blockedRun = .ok blockedState := by decide +kernel

theorem blockedRun_evidence_intact :
    blockedState.EvidenceIntact ∧
    (∀ later final, replayRun (blockedRun ++ later) = .ok final →
      blockedState.artifacts <+: final.artifacts) ∧
    Applied UnknownCleanupRecorded blockedRun :=
  replayRun_evidence_intact blockedRun_replayed

end Anastom
