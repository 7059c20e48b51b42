import Anastom.Core.Workflow
import Anastom.Data.Dependencies

/-! The authored workflow, the checks it passes, and its normalization into the definition
that runs are created from. Nodes are listed in the order of `Object.entries`. -/
namespace Anastom

structure AttemptPolicyDocument where
  maxAttempts : Option Nat
  maxDuration : Option String
  deriving DecidableEq, Repr

structure CommandDocument where
  argv : List String
  cwd : Option String
  maxDuration : String
  maxOutputBytes : Option Nat
  deriving DecidableEq, Repr

structure WorkflowNodeDocument where
  kind : NodeKind
  needs : Option (List String)
  role : Option String
  output : String
  attemptPolicy : Option AttemptPolicyDocument
  mutation : Option MutationMode
  command : Option CommandDocument
  deriving DecidableEq, Repr

structure WorkflowDocument where
  metadata : WorkflowMetadata
  inputs : List (String × String)
  defaultAttemptBudget : Option AttemptPolicyDocument
  nodes : List (String × WorkflowNodeDocument)
  deriving DecidableEq, Repr

/-- The issues of a `WorkflowValidationError`. -/
abbrev Issues := List String

/-- The YAML parser, with the shape the schema demands, and the texts of schema errors. -/
structure DocumentReader where
  parse : String → Except Issues WorkflowDocument
  schemaIssues : WorkflowDocument → Issues

/-- The paths and the schema files a document is normalized with. -/
structure SchemaFiles where
  resolve : String → String
  /-- `resolve(dirname(sourcePath), schemaRef)` -/
  resolveBeside : String → String → String
  loadSchema : String → Except Issues JsonValue
  compileError : JsonValue → String

namespace WorkflowDocument

def quoted (s : String) : String := String.ofList (Json.stringChars s)

/-- `^[1-9][0-9]*(?:ms|s|m|h)$`, the multiplier of its unit included. -/
def duration? (s : String) : Option (Nat × Nat) :=
  let digits := s.toList.takeWhile Char.isDigit
  let value := digits.foldl (fun n c => n * 10 + (c.toNat - '0'.toNat)) 0
  let multiplier : Option Nat := match s.toList.drop digits.length with
    | ['m', 's'] => some 1
    | ['s'] => some 1000
    | ['m'] => some 60000
    | ['h'] => some 3600000
    | _ => none
  if digits.isEmpty then none else multiplier.map fun unit => (value, unit)

def validDuration (s : String) : Bool := (duration? s).isSome && s.toList.head? != some '0'

def validPolicy (policy : AttemptPolicyDocument) : Bool :=
  policy.maxAttempts.all (fun n => decide (1 ≤ n)) && policy.maxDuration.all validDuration

def validCommand (command : CommandDocument) : Bool :=
  !command.argv.isEmpty && command.argv.all (!·.isEmpty) && validDuration command.maxDuration &&
    command.maxOutputBytes.all fun n => decide (1 ≤ n ∧ n ≤ 16777216)

def validNode (entry : String × WorkflowNodeDocument) : Bool :=
  let (id, node) := entry
  Text.nodeName id && node.needs.all (fun needs => decide needs.Nodup && needs.all (!·.isEmpty)) &&
    node.role.all (!·.isEmpty) && !node.output.isEmpty && node.attemptPolicy.all validPolicy &&
    node.command.all validCommand

/-- What the document schema adds to the record types; keys of an object are distinct. -/
def validateWorkflowDocument (document : WorkflowDocument) : Bool :=
  Definition.metadataId document.metadata.id &&
    Definition.metadataVersion document.metadata.version &&
    decide (document.inputs.map Prod.fst).Nodup && document.inputs.all (!·.2.isEmpty) &&
    document.defaultAttemptBudget.all validPolicy && !document.nodes.isEmpty &&
    decide (document.nodes.map Prod.fst).Nodup && document.nodes.all validNode

def nodeIds (document : WorkflowDocument) : List String := document.nodes.map Prod.fst

/-- `document.nodes[nodeId]?.needs ?? []`, without the unknown nodes. -/
def needs (document : WorkflowDocument) (nodeId : String) : List String :=
  (((document.nodes.lookup nodeId).bind WorkflowNodeDocument.needs).getD []).filter
    (document.nodeIds.contains ·)

def cycleIssue (path : List String) (nodeId : String) : String :=
  "dependency cycle: " ++
    String.intercalate " -> " (path.drop (path.idxOf nodeId) ++ [nodeId])

def dependencyIssues (document : WorkflowDocument) (nodeId dependency : String) : Issues :=
  (if document.nodeIds.contains dependency then [] else
    ["/nodes/" ++ nodeId ++ "/needs references unknown node " ++ quoted dependency]) ++
  if dependency = nodeId then ["/nodes/" ++ nodeId ++ "/needs cannot reference itself"] else []

def nodeIssues (document : WorkflowDocument) (entry : String × WorkflowNodeDocument) : Issues :=
  let (nodeId, node) := entry
  let issue (wrong : Bool) (text : String) : Issues :=
    if wrong then ["/nodes/" ++ nodeId ++ text] else []
  let outside (cwd : String) : Bool := Definition.isAbsolute cwd ||
    (Definition.pathParts cwd).contains ['.', '.']
  issue (node.kind == .agent && node.role.isNone) "/role is required for agent nodes" ++
    issue (node.kind != .agent && node.role.isSome) "/role is only valid for agent nodes" ++
    issue (node.mutation.isSome && node.kind != .agent)
      "/mutation is only valid for agent nodes" ++
    issue (node.command.isSome && node.kind != .command)
      "/command is only valid for command nodes" ++
    issue ((node.command.bind CommandDocument.cwd).any outside)
      "/command/cwd must stay within the workspace" ++
    (node.needs.getD []).flatMap (dependencyIssues document nodeId)

def semanticIssues (document : WorkflowDocument) : Issues :=
  document.nodes.flatMap document.nodeIssues ++
    (Dependencies.explore document.needs cycleIssue document.nodeIds).issues

/-- Field ownership, closed dependencies and acyclicity. -/
def assertSemanticValidity (document : WorkflowDocument) : Except Issues Unit :=
  if document.semanticIssues.isEmpty then .ok () else .error document.semanticIssues.eraseDups

end WorkflowDocument

open WorkflowDocument

/-- Parse strict Workflow YAML and validate it. -/
def parseWorkflowYaml (reader : DocumentReader) (source : String) :
    Except Issues WorkflowDocument := do
  let candidate ← reader.parse source
  if !validateWorkflowDocument candidate then throw (reader.schemaIssues candidate)
  assertSemanticValidity candidate
  pure candidate

/-- Convert a duration to milliseconds within the platform timer range. -/
def durationToMilliseconds (duration : String) : Except Issues Nat :=
  match duration? duration with
  | none => throw ["invalid duration " ++ quoted duration]
  | some (value, multiplier) =>
    if value * multiplier > 2147483647 then throw ["duration exceeds supported timer range"]
    else pure (value * multiplier)

def normalizeBudget (policy : Option AttemptPolicyDocument) (fallback : Option AttemptBudget) :
    Except Issues AttemptBudget := do
  let maxAttempts := ((policy.bind AttemptPolicyDocument.maxAttempts).or
    (fallback.map AttemptBudget.maxAttempts)).getD 1
  match policy.bind AttemptPolicyDocument.maxDuration with
  | none => pure { maxAttempts, maxDurationMs := fallback.bind AttemptBudget.maxDurationMs }
  | some duration => pure { maxAttempts, maxDurationMs := some (← durationToMilliseconds duration) }

/-- `^[a-zA-Z][a-zA-Z+.-]*:` -/
def remoteReference (schemaRef : String) : Bool :=
  let scheme := schemaRef.toList.takeWhile fun c =>
    c.isAlpha || c == '+' || c == '.' || c == '-'
  scheme.head?.any Char.isAlpha && schemaRef.toList[scheme.length]? == some ':'

def resolveSchemaPath (files : SchemaFiles) (sourcePath schemaRef : String) :
    Except Issues String :=
  if remoteReference schemaRef then
    throw ["remote schema references are unsupported: " ++ schemaRef]
  else if Definition.isAbsolute schemaRef then pure schemaRef
  else pure (files.resolveBeside sourcePath schemaRef)

/-- `load` of a reference; a cached schema is the one its path loads. -/
def loadReference (files : SchemaFiles) (ajv : Ajv) (sourcePath schemaRef : String) :
    Except Issues ResolvedSchemaReference := do
  let path ← resolveSchemaPath files sourcePath schemaRef
  let schema ← files.loadSchema path
  if ajv.compiles schema then pure { ref := schemaRef, schema }
  else throw ["invalid JSON Schema " ++ path ++ ": " ++ files.compileError schema]

def normalizeCommand (command : CommandDocument) : Except Issues CommandDefinition := do
  let maxDurationMs ← durationToMilliseconds command.maxDuration
  pure { argv := command.argv, cwd := command.cwd.getD ".", maxDurationMs,
         maxOutputBytes := command.maxOutputBytes.getD 1048576 }

def normalizeNode (files : SchemaFiles) (ajv : Ajv) (sourcePath : String)
    (defaultAttemptBudget : AttemptBudget) (entry : String × WorkflowNodeDocument) :
    Except Issues (String × WorkflowNode) := do
  let (id, node) := entry
  let output ← loadReference files ajv sourcePath node.output
  let attemptBudget ← normalizeBudget node.attemptPolicy (some defaultAttemptBudget)
  let command ← node.command.mapM normalizeCommand
  pure (id, { id, kind := node.kind, needs := node.needs.getD [], role := node.role, output,
              attemptBudget, mutation := node.mutation, command })

/-- Resolve local schemas and independent budget defaults into a replayable snapshot. -/
def normalizeWorkflow (files : SchemaFiles) (ajv : Ajv) (document : WorkflowDocument)
    (path : String) : Except Issues WorkflowDefinition := do
  let sourcePath := files.resolve path
  let defaultAttemptBudget ← normalizeBudget document.defaultAttemptBudget none
  let inputs ← document.inputs.mapM fun (id, schemaRef) => do
    let reference ← loadReference files ajv sourcePath schemaRef
    pure (id, { id, toResolvedSchemaReference := reference : WorkflowInputDefinition })
  let nodes ← document.nodes.mapM (normalizeNode files ajv sourcePath defaultAttemptBudget)
  pure { metadata := document.metadata, sourcePath, inputs, defaultAttemptBudget,
         nodeOrder := document.nodeIds, nodes, task := none }

end Anastom
