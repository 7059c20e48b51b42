import Anastom.Engine.Advancement

/-! What the engine may rely on in its surroundings and what it owes them at every call,
and what a commit and a recorded piece of evidence do under that contract. -/
namespace Anastom
open Driver WorkflowEngine

/-- The stored runs. -/
abbrev RunTable : Type := String → Option PersistedRun

namespace EngineCall

/-- How calls are answered. A store changes exactly by what it accepts, a stored artifact
names its producer, only a limited attempt runs past a deadline, and the reducer answers as it
computes; the rest is arbitrary. -/
def Answers : (c : EngineCall) → RunTable → c.Answer → RunTable → Prop
  | load runId, table, answer, next => next = table ∧ ∀ run, answer = .ok run → run = table runId
  | create runId run, table, answer, next => match answer with
    | .ok () => table runId = none ∧ next = Function.update table runId (some run)
    | .error _ => next = table
  | append runId expectedSequence batch, table, answer, next => match answer with
    | .ok () => ∃ run, table runId = some run ∧ run.events.length = expectedSequence ∧
        next = Function.update table runId (some { run with events := run.events ++ batch })
    | .error _ => next = table
  | materializeEvents current runId payloads, table, answer, next =>
    next = table ∧ answer = Anastom.materializeEvents current runId payloads
  | writeArtifact artifact, table, answer, next => next = table ∧ ∀ ref, answer = .ok ref →
      ref.valid = true ∧
        ref.producer = { runId := artifact.runId, nodeId := artifact.nodeId, attempt := artifact.attempt }
  | executeCommand .., table, answer, next =>
    next = table ∧ ∀ execution, answer = .ok execution → execution.output.valid = true
  | start request, table, answer, next =>
    next = table ∧ (answer = .expired → request.budget.maxDurationMs.isSome = true)
  | events request, table, answer, next =>
    next = table ∧ (answer.ending = .expired → request.budget.maxDurationMs.isSome = true)
  | collect request, table, answer, next =>
    next = table ∧ (answer = .expired → request.budget.maxDurationMs.isSome = true)
  | overdue request, table, answer, next =>
    next = table ∧ (answer = true → request.budget.maxDurationMs.isSome = true)
  | createRunId, table, _, next | capabilities, table, _, next
  | captureWorkspace _, table, _, next | handle _, table, _, next | cancel _, table, _, next
  | late _, table, _, next => next = table

/-- The reducer has accepted what was proposed. -/
def Accepted : (c : EngineCall) → c.Answer → Prop
  | materializeEvents .., answer => ∃ transition, answer = .ok transition
  | _, _ => True

/-- Evidence of a timeout that has been requested. -/
def timeoutEvidence : RunEventPayload → Bool
  | .attemptCancellationCompleted .. | .lateResultObserved .. => true
  | _ => false

/-- The attempt has run past its deadline, as its run records it. -/
def TimedOut (request : ExecutionRequest) (table : RunTable) : Prop :=
  ∃ run state node attempt, table request.runId = some run ∧ replayRun run.events = .ok state ∧
    state.node? request.nodeId = some node ∧ node.current = some attempt ∧
    attempt.timeout.isSome = true

/-- The sequences of a proposed batch are safe integers. -/
def Fits : (c : EngineCall) → Prop
  | materializeEvents (some state) _ payloads => state.HasRoom payloads
  | _ => True

/-- What keeps the engine's proposals acceptable: sequences stay safe, evidence of a timeout is
stored, an operation awaited after its deadline does not throw, and a timed-out attempt is not
found to have changed a readonly workspace. -/
def Favourable : (c : EngineCall) → RunTable → c.Answer → Prop
  | append _ _ batch, _, answer =>
    (∃ failure, answer = .error failure) → ∀ event ∈ batch, timeoutEvidence event.payload = false
  | late _, _, answer => ∃ result, answer = .ok result
  | captureWorkspace request, table, answer => ∀ capture, answer = .ok capture →
      request.workspace.mode = .readonly → capture.changedFiles ≠ [] → ¬ TimedOut request table
  | c, _, _ => c.Fits

end EngineCall

/-- Attempts start with every need succeeded and every input of their context there. -/
def StartsFed (workflow : WorkflowDefinition) (state : RunState)
    (payloads : List RunEventPayload) : Prop :=
  ∀ nodeId attempt, .attemptStarted nodeId attempt ∈ payloads →
    NeedsSucceeded workflow state nodeId ∧ ∀ workspace, ∃ context,
      buildContext { workflow, state := state.afterAll payloads, nodeId, attempt, workspace } =
        .ok context

namespace EngineCall

/-- What the engine owes: a running graph it loads can go on, an attempt starts only when it
is fed, and the reducer accepts what it proposes, if all goes well. -/
def Owes (workflow : WorkflowDefinition) (conditions : Prop) : EngineCall → RunTable → Prop
  | load runId, table => ∀ run state, table runId = some run → replayRun run.events = .ok state →
      state.status = .running → findReadyNodes workflow state ≠ []
  | materializeEvents current runId payloads, _ =>
    (conditions → Fits (materializeEvents current runId payloads) →
      ∃ transition, Anastom.materializeEvents current runId payloads = .ok transition) ∧
    ∀ state ∈ current, StartsFed workflow state payloads
  | _, _ => True

end EngineCall

def engineContract (workflow : WorkflowDefinition) (conditions : Prop) :
    Contract engineInterface where
  World := RunTable
  gets c table answer next := c.Answers table answer next ∧ c.Accepted answer ∧
    (conditions → c.Favourable table answer)
  owes c table := c.Owes workflow conditions table
  cuts := False

/-- The run is stored with the events that lead to this state. -/
structure RunTable.Stores (table : RunTable) (workflow : WorkflowDefinition) (runId : String)
    (state : RunState) : Prop where
  run : ∃ events, table runId = some ⟨workflow, events⟩ ∧ replayRun events = .ok state
  runId : state.runId = runId

section commit
variable {workflow : WorkflowDefinition} {conditions : Prop} {σ : Type} {s : σ}
  {table : RunTable} {runId : String} {state : RunState} {payloads : List RunEventPayload}

namespace RunTable.Stores

theorem replayed (stores : table.Stores workflow runId state) :
    ∃ events, replayRun events = .ok state := by
  obtain ⟨events, _, replayed⟩ := stores.run
  exact ⟨events, replayed⟩

theorem distinct (stores : table.Stores workflow runId state) : Keyed.Distinct state.nodes := by
  obtain ⟨_, replayed⟩ := stores.replayed
  exact replayRun_distinct replayed

theorem load (stores : table.Stores workflow runId state) {run : PersistedRun}
    (found : table runId = some run) : run.workflow = workflow ∧ replayRun run.events = .ok state := by
  obtain ⟨events, present, replayed⟩ := stores.run
  rw [found, Option.some.injEq] at present
  subst present
  exact ⟨rfl, replayed⟩

end RunTable.Stores

/-- A commit stores the accepted batch, or fails and leaves the table alone. -/
theorem commit_meets (stores : table.Stores workflow runId state)
    (admits : conditions → state.HasRoom payloads → state.AdmitsAll payloads)
    (fed : StartsFed workflow state payloads) :
    Meets (engineContract workflow conditions) (commit runId state payloads : EngineM σ RunState) s
      table (Either
        (fun next t v => t = s ∧ next = state.afterAll payloads ∧ state.AdmitsAll payloads ∧
          v.Stores workflow runId next)
        fun _ t v => t = s ∧ v = table ∧
          (conditions → ∀ payload ∈ payloads, EngineCall.timeoutEvidence payload = false)) := by
  unfold commit
  split
  · rename_i empty
    obtain rfl := List.isEmpty_iff.mp empty
    exact ⟨rfl, rfl, trivial, stores⟩
  · obtain ⟨events, stored, replayed⟩ := stores.run
    refine meets_bind.mpr (meets_ask.mpr ⟨⟨fun good fits => ?_, ?_⟩, ?_⟩)
    · obtain ⟨events, materialized⟩ := materializeEvents_admits.mpr ⟨admits good fits, fits, rfl⟩
      rw [stores.runId] at materialized
      exact ⟨_, materialized⟩
    · rintro _ ⟨⟩
      exact fed
    · rintro _ _ ⟨⟨rfl, rfl⟩, ⟨⟨batch, next⟩, materialized⟩, _⟩
      have materialized : materializeEvents (some state) runId payloads = .ok (batch, next) :=
        materialized
      have named := stores.runId
      subst named
      obtain ⟨admitted, _, rfl⟩ := materializeEvents_admits.mp ⟨batch, materialized⟩
      obtain ⟨same, _, folded⟩ := materializeEvents_fold materialized
      rw [materialized]
      refine meets_bind.mpr ⟨trivial, ?_⟩
      rintro (failure | ⟨⟩) v ⟨answered, _, good⟩
      · refine ⟨rfl, answered, fun holds payload member => ?_⟩
        rw [← same] at member
        obtain ⟨event, inside, rfl⟩ := List.mem_map.mp member
        exact good holds ⟨failure, rfl⟩ event inside
      · obtain ⟨run, found, _, rfl⟩ := answered
        obtain rfl := Option.some.inj (stored.symm.trans found)
        refine ⟨rfl, rfl, admitted, ⟨events ++ batch, Function.update_self .., ?_⟩, afterAll_runId⟩
        exact replayRun_ok.mpr (foldEvents_append_ok.mpr ⟨_, replayRun_ok.mp replayed, folded⟩)

end commit
/-- An attempt in progress: its local state is the stored one. -/
structure WorkflowEngine.AttemptLocals.Attempting (workflow : WorkflowDefinition) (start : RunState)
    (request : ExecutionRequest) (timeout : Option TimeoutState) (usageSeen : Bool)
    (locals : AttemptLocals) (table : RunTable) : Prop where
  stores : table.Stores workflow request.runId locals.state
  active : start.Active request.nodeId request.attempt timeout usageSeen locals.state

/-- With a recorded timeout, its cancellation is recorded too and the result is the exhausted
budget. -/
def TimeoutSettled (timeout : Option TimeoutState) (result : ExecutionResult) : Prop :=
  ∀ requested ∈ timeout, requested.cancellation.isSome = true ∧
    ∃ failure : ExecutionFailure, result = .failed failure ∧ failure.category = .budgetExhausted

section attempt
variable {workflow : WorkflowDefinition} {conditions : Prop} {options : WorkflowEngineOptions}
  {request : ExecutionRequest} {start : RunState} {timeout after : Option TimeoutState}
  {usageSeen seen : Bool} {locals : AttemptLocals} {table : RunTable}

/-- Recorded evidence is committed and becomes the local state. -/
theorem record_meets {payload : RunEventPayload}
    (attempting : locals.Attempting workflow start request timeout usageSeen table)
    (evidence : ∀ nodeId attempt, payload ≠ .attemptStarted nodeId attempt)
    (admits : conditions → locals.state.Admits payload)
    (next : start.Active request.nodeId request.attempt after seen (locals.state.after payload)) :
    Meets (engineContract workflow conditions) (record request payload) locals table (Either
      (fun _ l v => l = { locals with state := locals.state.after payload } ∧
        l.Attempting workflow start request after seen v)
      fun _ l v => l = locals ∧ v = table ∧
        (conditions → EngineCall.timeoutEvidence payload = false)) := by
  have committed := @commit_meets workflow conditions _ locals table request.runId locals.state
    [payload] attempting.stores (fun good _ => ⟨admits good, trivial⟩) fun nodeId attempt member =>
      absurd (List.mem_singleton.mp member).symm (evidence nodeId attempt)
  refine meets_bind.mpr (meets_get.mpr (meets_bind.mpr (committed.imp ?_)))
  rintro (failure | state) l v holds
  · obtain ⟨rfl, rfl, harmless⟩ := holds
    exact ⟨rfl, rfl, fun good => harmless good payload (List.mem_singleton_self _)⟩
  · obtain ⟨rfl, rfl, _, stored⟩ := holds
    exact ⟨rfl, stored, next⟩

/-- What an interrupted step leaves: the attempt, and its local result. -/
def Kept (workflow : WorkflowDefinition) (start : RunState) (request : ExecutionRequest)
    (timeout : Option TimeoutState) (usageSeen : Bool) (locals l : AttemptLocals) (v : RunTable) :
    Prop :=
  l.Attempting workflow start request timeout usageSeen v ∧ l.result = locals.result

theorem recordArtifact_meets {type mediaType : String} {bytes : List UInt8}
    (attempting : locals.Attempting workflow start request timeout usageSeen table) :
    Meets (engineContract workflow conditions) (recordArtifact options request type mediaType bytes)
      locals table (Either
        (fun ref l v => Kept workflow start request timeout usageSeen locals l v ∧
          ∀ artifact ∈ ref, l.state.hasArtifact artifact.id = true)
        fun _ l v => Kept workflow start request timeout usageSeen locals l v) := by
  unfold recordArtifact
  split
  · exact ⟨⟨attempting, rfl⟩, nofun⟩
  · refine meets_bind.mpr (meets_ask.mpr ⟨trivial, ?_⟩)
    rintro (failure | artifact) v ⟨⟨rfl, written⟩, _⟩
    · exact ⟨attempting, rfl⟩
    · obtain ⟨valid, producer⟩ := written artifact rfl
      have named : start.runId = request.runId :=
        attempting.active.runId.symm.trans attempting.stores.runId
      refine meets_bind.mpr (meets_lift.mpr (meets_bind.mpr ((record_meets attempting (by rintro _ _ ⟨⟩)
        (fun _ => attempting.active.admits_artifact valid (by rw [producer, named]))
        (attempting.active.keepRun rfl rfl rfl)).imp ?_)))
      rintro (failure | ⟨⟩) l v holds
      · obtain ⟨rfl, rfl, _⟩ := holds
        exact ⟨attempting, rfl⟩
      · obtain ⟨rfl, recorded⟩ := holds
        refine ⟨⟨recorded, rfl⟩, ?_⟩
        rintro _ ⟨⟩
        simp [RunState.hasArtifact, RunState.after, RunEventPayload.effect,
          RunEventPayload.nodeChange, RunEventPayload.runChange]

theorem observe_meets {event : RuntimeEvent}
    (attempting : locals.Attempting workflow start request timeout usageSeen table)
    (valid : event.valid = true) (first : reportsUsage event = true → usageSeen = false) :
    Meets (engineContract workflow conditions) (observe request event) locals table (Either
      (fun _ l v => Kept workflow start request timeout (usageSeen || reportsUsage event) locals l v)
      fun _ l v => Kept workflow start request timeout usageSeen locals l v) := by
  refine meets_bind.mpr ((record_meets attempting (by rintro _ _ ⟨⟩)
    (fun _ => attempting.active.admits_observation valid first)
    (attempting.active.record_observation event)).imp ?_)
  rintro (failure | ⟨⟩) l v holds
  · obtain ⟨rfl, rfl, _⟩ := holds
    exact ⟨attempting, rfl⟩
  · obtain ⟨rfl, recorded⟩ := holds
    cases event with
    | log message level =>
      refine meets_modify.mpr ?_
      show Kept _ _ _ _ _ _ (if _ then _ else _) _
      split
      · exact ⟨⟨recorded.stores, recorded.active⟩, rfl⟩
      · exact ⟨recorded, rfl⟩
    | started | completed _ | usage _ | metadata _ => exact ⟨recorded, rfl⟩

end attempt

end Anastom
