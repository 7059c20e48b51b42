import Anastom.Core.NormalizedWorkflow
import Anastom.Engine.Events

/-! Which nodes of a workflow may run next, and the context and request of one attempt. -/
namespace Anastom

/-- Pending nodes whose declared dependencies have all succeeded, in authored order. -/
def findExecutableNodes (workflow : WorkflowDefinition) (state : RunState) : List String :=
  workflow.nodeOrder.filter fun nodeId =>
    (state.node? nodeId).any (·.status == .pending) && (workflow.node? nodeId).any fun node =>
      node.needs.all fun dependency => (state.node? dependency).any (·.status == .succeeded)

/-- Ready nodes in authored order. -/
def findReadyNodes (workflow : WorkflowDefinition) (state : RunState) : List String :=
  workflow.nodeOrder.filter fun nodeId => (state.node? nodeId).any (·.status == .ready)

structure ContextTask where
  id : String
  version : String
  objective : String
  acceptanceCriteria : List String
  deriving DecidableEq, Repr

/-- Explicit per-attempt context snapshot. -/
structure ContextEnvelope where
  runId : String
  workflowInstanceId : String
  nodeId : String
  attempt : Nat
  inputs : List (String × JsonValue)
  dependencyOutputs : List (String × JsonValue)
  task : Option ContextTask
  role : Option String
  workspace : WorkspaceRef
  allowedMutations : MutationMode
  artifacts : List ArtifactRef
  verification : Option CommandDefinition
  requiredOutputSchema : JsonValue
  budget : AttemptBudget
  deriving DecidableEq, Repr

/-- A complete runtime invocation. -/
structure ExecutionRequest where
  runId : String
  workflowInstanceId : String
  nodeId : String
  nodeKind : NodeKind
  attempt : Nat
  role : Option String
  workspace : WorkspaceRef
  context : ContextEnvelope
  budget : AttemptBudget
  requiredOutputSchema : JsonValue
  allowMutations : Bool
  deriving DecidableEq, Repr

open JsonValue

def roleJson (role : String) : JsonValue := .object [("id", .string role)]

def ContextTask.toJson (task : ContextTask) : JsonValue :=
  .object [("id", .string task.id), ("version", .string task.version),
    ("objective", .string task.objective), ("acceptanceCriteria", strings task.acceptanceCriteria)]

def ContextEnvelope.toJson (context : ContextEnvelope) : JsonValue :=
  .object ([("version", .string "anastom.dev/context/v1alpha1"), ("runId", .string context.runId),
      ("workflowInstanceId", .string context.workflowInstanceId),
      ("nodeId", .string context.nodeId), ("attempt", nat context.attempt),
      ("inputs", .object context.inputs),
      ("dependencyOutputs", .object context.dependencyOutputs)] ++
    field "task" ContextTask.toJson context.task ++ field "role" roleJson context.role ++
    [("workspace", context.workspace.toJson),
      ("allowedMutations", .string context.allowedMutations.text),
      ("artifacts", .array (context.artifacts.map ArtifactRef.toJson))] ++
    field "verification" CommandDefinition.toJson context.verification ++
    [("requiredOutputSchema", context.requiredOutputSchema),
      ("budget", context.budget.toJson)])

structure ContextOptions where
  workflow : WorkflowDefinition
  state : RunState
  nodeId : String
  attempt : Nat
  workspace : WorkspaceRef
  artifacts : List ArtifactRef := []

/-- The output a dependency leaves to the nodes that need it. -/
def dependencyOutput (state : RunState) (id : String) : Except Failure (String × JsonValue) :=
  match (state.node? id).bind NodeRunState.output with
  | some output => .ok (id, output)
  | none => .error (.error ("Dependency has no structured output: " ++ id))

/-- Copy declared inputs and successful dependency outputs into a fresh envelope. -/
def buildContext (options : ContextOptions) : Except Failure ContextEnvelope := do
  let workflow := options.workflow
  let state := options.state
  let node ← requireSome (workflow.node? options.nodeId)
    (.error ("Unknown context node " ++ options.nodeId))
  let dependencyOutputs ← node.needs.mapM (dependencyOutput state)
  pure {
    runId := state.runId, workflowInstanceId := state.workflowInstanceId,
    nodeId := options.nodeId, attempt := options.attempt, inputs := state.inputs,
    dependencyOutputs
    task := workflow.task.map fun task =>
      { id := workflow.metadata.id, version := workflow.metadata.version,
        objective := task.objective, acceptanceCriteria := task.acceptanceCriteria }
    role := node.role.filter (!·.isEmpty)
    workspace := options.workspace
    allowedMutations := node.mutation.getD .readonly
    artifacts := options.artifacts
    verification := (workflow.node? "verify").bind WorkflowNode.command
    requiredOutputSchema := node.output.schema
    budget := node.attemptBudget }

/-- The canonical bytes of the envelope. -/
def ContextEnvelope.bytes (context : ContextEnvelope) : String :=
  Json.canonicalJson context.toJson

/-- The request that executes one attempt of a node in its context. -/
def executionRequest (state : RunState) (nodeId : String) (node : WorkflowNode) (attempt : Nat)
    (context : ContextEnvelope) : ExecutionRequest :=
  { runId := state.runId, workflowInstanceId := state.workflowInstanceId, nodeId,
    nodeKind := node.kind, attempt, role := node.role, workspace := context.workspace, context,
    budget := context.budget, requiredOutputSchema := context.requiredOutputSchema,
    allowMutations := node.mutation == some .isolated }

variable {workflow : WorkflowDefinition} {state : RunState} {id : String}

def RunState.HasSucceeded (state : RunState) (id : String) : Prop :=
  ∃ node, state.node? id = some node ∧ node.status = .succeeded

/-- Every dependency of a node has succeeded. -/
def NeedsSucceeded (workflow : WorkflowDefinition) (state : RunState) (id : String) : Prop :=
  ∀ need ∈ workflow.needs id, state.HasSucceeded need

theorem mem_findReadyNodes : id ∈ findReadyNodes workflow state ↔
    id ∈ workflow.nodeOrder ∧ ∃ node, state.node? id = some node ∧ node.status = .ready := by
  simp [findReadyNodes, Option.any_eq_true]

theorem mem_findExecutableNodes : id ∈ findExecutableNodes workflow state ↔
    id ∈ workflow.nodeOrder ∧ (∃ node, state.node? id = some node ∧ node.status = .pending) ∧
      (workflow.node? id).isSome ∧ NeedsSucceeded workflow state id := by
  simp only [findExecutableNodes, List.mem_filter, Bool.and_eq_true, Option.any_eq_true,
    List.all_eq_true, beq_iff_eq, NeedsSucceeded, RunState.HasSucceeded, WorkflowDefinition.needs]
  refine and_congr_right fun _ => and_congr_right fun _ => ?_
  cases workflow.node? id <;> simp

/-- A context can be built as soon as every dependency has an output. -/
theorem buildContext_ok {options : ContextOptions} {node : WorkflowNode}
    (present : options.workflow.node? options.nodeId = some node)
    (outputs : ∀ need ∈ node.needs, ∃ dependency output,
      options.state.node? need = some dependency ∧ dependency.output = some output) :
    ∃ context, buildContext options = .ok context := by
  have each : ∃ dependencies, node.needs.mapM (dependencyOutput options.state) = .ok dependencies := by
    generalize node.needs = needs at outputs
    induction needs with
    | nil => exact ⟨[], rfl⟩
    | cons need rest ih =>
      obtain ⟨dependencies, collected⟩ := ih fun other member =>
        outputs other (List.mem_cons_of_mem _ member)
      obtain ⟨dependency, output, found, produced⟩ := outputs need List.mem_cons_self
      have first : dependencyOutput options.state need = .ok (need, output) := by
        simp [dependencyOutput, found, produced]
      exact ⟨(need, output) :: dependencies,
        mapM_ok.mpr (.cons first (mapM_ok.mp collected))⟩
  obtain ⟨dependencies, collected⟩ := each
  exact ⟨_, bind_ok.mpr ⟨node, requireSome_ok.mpr present,
    bind_ok.mpr ⟨dependencies, collected, rfl⟩⟩⟩

end Anastom
