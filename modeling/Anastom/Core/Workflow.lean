import Anastom.Core.Text

/-! The normalized workflow persisted with each run, its JSON form, and the
checks a stored definition passes before it is trusted. -/
namespace Anastom

inductive NodeKind where
  | agent | command | gate | verifier
  deriving DecidableEq, Repr

inductive NodeStatus where
  | pending | ready | running | blocked | succeeded | failed | paused | cancelled
  deriving DecidableEq, Repr

inductive MutationMode where
  | readonly | isolated
  deriving DecidableEq, Repr

structure AttemptBudget where
  maxAttempts : Nat
  maxDurationMs : Option Nat
  deriving DecidableEq, Repr

structure CommandDefinition where
  argv : List String
  cwd : String
  maxDurationMs : Nat
  maxOutputBytes : Nat
  deriving DecidableEq, Repr

structure ResolvedSchemaReference where
  ref : String
  schema : JsonValue
  deriving DecidableEq, Repr

structure WorkflowInputDefinition extends ResolvedSchemaReference where
  id : String
  deriving DecidableEq, Repr

structure WorkflowNode where
  id : String
  kind : NodeKind
  needs : List String
  role : Option String
  output : ResolvedSchemaReference
  attemptBudget : AttemptBudget
  mutation : Option MutationMode
  command : Option CommandDefinition
  deriving DecidableEq, Repr

structure WorkflowMetadata where
  id : String
  version : String
  deriving DecidableEq, Repr

structure TaskObjective where
  objective : String
  acceptanceCriteria : List String
  deriving DecidableEq, Repr

structure WorkflowDefinition where
  metadata : WorkflowMetadata
  sourcePath : String
  inputs : List (String × WorkflowInputDefinition)
  defaultAttemptBudget : AttemptBudget
  nodeOrder : List String
  nodes : List (String × WorkflowNode)
  task : Option TaskObjective
  deriving DecidableEq, Repr

/-- `ajv.compile` and the validators it returns. -/
structure Ajv where
  compiles : JsonValue → Bool
  errors : JsonValue → JsonValue → List String

def NodeKind.text : NodeKind → String
  | .agent => "agent"
  | .command => "command"
  | .gate => "gate"
  | .verifier => "verifier"

def NodeStatus.text : NodeStatus → String
  | .pending => "pending"
  | .ready => "ready"
  | .running => "running"
  | .blocked => "blocked"
  | .succeeded => "succeeded"
  | .failed => "failed"
  | .paused => "paused"
  | .cancelled => "cancelled"

def MutationMode.text : MutationMode → String
  | .readonly => "readonly"
  | .isolated => "isolated"

open JsonValue

def AttemptBudget.toJson (budget : AttemptBudget) : JsonValue :=
  .object (("maxAttempts", nat budget.maxAttempts) ::
    field "maxDurationMs" nat budget.maxDurationMs)

def CommandDefinition.toJson (command : CommandDefinition) : JsonValue :=
  .object [("argv", strings command.argv), ("cwd", .string command.cwd),
    ("maxDurationMs", nat command.maxDurationMs),
    ("maxOutputBytes", nat command.maxOutputBytes)]

def ResolvedSchemaReference.toJson (reference : ResolvedSchemaReference) : JsonValue :=
  .object [("ref", .string reference.ref), ("schema", reference.schema)]

def WorkflowInputDefinition.toJson (input : WorkflowInputDefinition) : JsonValue :=
  .object [("id", .string input.id), ("ref", .string input.ref), ("schema", input.schema)]

def WorkflowNode.toJson (node : WorkflowNode) : JsonValue :=
  .object ([("id", .string node.id), ("kind", .string node.kind.text),
      ("needs", strings node.needs)] ++ field "role" .string node.role ++
    [("output", node.output.toJson), ("attemptBudget", node.attemptBudget.toJson)] ++
    field "mutation" (.string ·.text) node.mutation ++
    field "command" CommandDefinition.toJson node.command)

def WorkflowDefinition.toJson (workflow : WorkflowDefinition) : JsonValue :=
  .object ([("apiVersion", .string "anastom.dev/v1alpha1"), ("kind", .string "Workflow"),
      ("metadata", .object [("id", .string workflow.metadata.id),
        ("version", .string workflow.metadata.version)]),
      ("sourcePath", .string workflow.sourcePath),
      ("inputs", .object (workflow.inputs.map fun (id, input) => (id, input.toJson))),
      ("policies", .object [("defaultAttemptBudget", workflow.defaultAttemptBudget.toJson)]),
      ("nodeOrder", strings workflow.nodeOrder),
      ("nodes", .object (workflow.nodes.map fun (id, node) => (id, node.toJson)))] ++
    field "task" (fun task => .object [("objective", .string task.objective),
      ("acceptanceCriteria", strings task.acceptanceCriteria)]) workflow.task)

namespace WorkflowDefinition

def node? (workflow : WorkflowDefinition) (nodeId : String) : Option WorkflowNode :=
  workflow.nodes.lookup nodeId

def parsedSchema (reference : ResolvedSchemaReference) : ResolvedSchemaReference :=
  { reference with schema := reference.schema.parsed }

/-- The definition read back from its canonical text. -/
def parsed (workflow : WorkflowDefinition) : WorkflowDefinition :=
  { workflow with
    inputs := workflow.inputs.map fun (id, input) =>
      (id, { input with toResolvedSchemaReference := parsedSchema input.toResolvedSchemaReference })
    nodes := workflow.nodes.map fun (id, node) =>
      (id, { node with output := parsedSchema node.output }) }

end WorkflowDefinition

namespace Definition

def isAbsolute (path : String) : Bool := path.toList.head? == some '/'

/-- Components between the separators `/` and `\`. -/
def pathParts (path : String) : List (List Char) :=
  path.toList.splitOnP fun c => c == '/' || c == '\\'

/-- `^[a-z0-9][a-z0-9/._-]*$` -/
def metadataId (s : String) : Bool :=
  let lower (c : Char) := ('a' ≤ c && c ≤ 'z') || c.isDigit
  match s.toList with
  | [] => false
  | head :: tail => lower head &&
      tail.all fun c => lower c || c == '/' || c == '.' || c == '_' || c == '-'

/-- `^[0-9]+\.[0-9]+\.[0-9]+(?:[-+][0-9A-Za-z.-]+)?$` -/
def metadataVersion (s : String) : Bool :=
  let release := s.toList.takeWhile fun c => c.isDigit || c == '.'
  let suffix := s.toList.drop release.length
  let numbers := release.splitOn '.'
  let number (part : List Char) := !part.isEmpty && part.all Char.isDigit
  numbers.length == 3 && numbers.all number &&
    match suffix with
    | [] => true
    | head :: tail => (head == '-' || head == '+') && !tail.isEmpty &&
        tail.all fun c => c.isAlphanum || c == '.' || c == '-'

def isObject : JsonValue → Bool
  | .object _ => true
  | _ => false

def timerRange (ms : Nat) : Bool := decide (1 ≤ ms ∧ ms ≤ 2147483647)

def validBudget (budget : AttemptBudget) : Bool :=
  decide (1 ≤ budget.maxAttempts) && budget.maxDurationMs.all timerRange

def validReference (ajv : Ajv) (reference : ResolvedSchemaReference) : Bool :=
  !reference.ref.isEmpty && isObject reference.schema && ajv.compiles reference.schema

def validCommand (command : CommandDefinition) : Bool :=
  !command.argv.isEmpty && command.argv.all (!·.isEmpty) && timerRange command.maxDurationMs &&
    decide (1 ≤ command.maxOutputBytes ∧ command.maxOutputBytes ≤ 16777216)

/-- Field ownership of `assertSemanticValidity` together with the node schema. -/
def validNode (ajv : Ajv) (workflow : WorkflowDefinition) (entry : String × WorkflowNode) : Bool :=
  let (id, node) := entry
  node.id == id && Text.nodeName id && decide node.needs.Nodup && node.needs.all (!·.isEmpty) &&
    node.needs.all (fun need => (workflow.nodes.lookup need).isSome && need != id) &&
    node.role.all (!·.isEmpty) && (node.role.isSome == (node.kind == .agent)) &&
    (node.mutation.isNone || node.kind == .agent) &&
    (node.command.isNone || node.kind == .command) &&
    node.command.all (fun command => validCommand command && !isAbsolute command.cwd &&
      !(pathParts command.cwd).contains ['.', '.']) &&
    validReference ajv node.output && validBudget node.attemptBudget

/-- `visit` of the cycle search: `visiting` is the current path. Fuel is the
number of nodes, which a path without repetition cannot exceed. -/
def visit (workflow : WorkflowDefinition) :
    Nat → List String → List String → String → Bool × List String
  | 0, _, visited, _ => (false, visited)
  | fuel + 1, visiting, visited, nodeId =>
    if visiting.contains nodeId then (false, visited)
    else if visited.contains nodeId then (true, visited)
    else
      let needs := ((workflow.node? nodeId).map WorkflowNode.needs).getD []
      let (acyclic, visited) := needs.foldl (fun (acyclic, visited) need =>
        if (workflow.node? need).isSome then
          let (result, visited) := visit workflow fuel (nodeId :: visiting) visited need
          (acyclic && result, visited)
        else (acyclic, visited)) (true, visited)
      (acyclic, nodeId :: visited)

def acyclic (workflow : WorkflowDefinition) : Bool :=
  (workflow.nodes.foldl (fun (acyclic, visited) (nodeId, _) =>
    let (result, visited) := visit workflow (workflow.nodes.length + 1) [] visited nodeId
    (acyclic && result, visited)) (true, [])).1

end Definition

/-- Accepts exactly the stored definitions that pass the persisted schema, name
their own keys, and pass the authored document's checks again. -/
def assertWorkflowDefinition (ajv : Ajv) (workflow : WorkflowDefinition) : Bool :=
  Definition.isAbsolute workflow.sourcePath &&
    !workflow.nodeOrder.isEmpty && decide workflow.nodeOrder.Nodup &&
    decide (workflow.nodes.map Prod.fst).Nodup && decide (workflow.inputs.map Prod.fst).Nodup &&
    workflow.nodeOrder.length == workflow.nodes.length &&
    workflow.nodeOrder.all (fun id => (workflow.node? id).isSome) &&
    Definition.metadataId workflow.metadata.id &&
    Definition.metadataVersion workflow.metadata.version &&
    Definition.validBudget workflow.defaultAttemptBudget &&
    workflow.inputs.all (fun (id, input) => input.id == id &&
      Definition.validReference ajv input.toResolvedSchemaReference) &&
    workflow.nodes.all (Definition.validNode ajv workflow) &&
    workflow.task.all (fun task => !task.objective.isEmpty &&
      !task.acceptanceCriteria.isEmpty && task.acceptanceCriteria.all (!·.isEmpty)) &&
    Definition.acyclic workflow

end Anastom
