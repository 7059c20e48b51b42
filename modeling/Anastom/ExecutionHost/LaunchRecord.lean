import Anastom.ExecutionHost.PrepareExecution

/-! The launch input of an execution as untrusted JSON: the checks that read it field by
field, the digest of its plan, and the start authority that has to match. Patterns are
tested on `String(value)`, so a field that is no string may still pass one. -/
namespace Anastom.LaunchRecord
open JsonValue

/-- `typeof value === "object"` of a value that is not null. -/
def isObject : JsonValue → Bool
  | .object _ | .array _ => true
  | _ => false

/-- `!!value` -/
def truthy : JsonValue → Bool
  | .null => false
  | .bool value => value
  | .number value => value.digits != 0
  | .string value => !value.isEmpty
  | .array _ | .object _ => true

def stringWhere (check : String → Bool) : JsonValue → Bool
  | .string value => check value
  | _ => false

/-- An array of at least so many items that all pass. -/
def arrayWhere (least : Nat) (check : JsonValue → Bool) : JsonValue → Bool
  | .array items => decide (least ≤ items.length) && items.all check
  | _ => false

/-- `left === right` where one of the two is known to be a string. -/
def sameString : Option JsonValue → Option JsonValue → Bool
  | some (.string left), some (.string right) => left == right
  | _, _ => false

/-- `Object.keys(value).sort().join(",")` -/
def joinedKeys (value : JsonValue) : String := ",".intercalate (sortKeys value.keys)

mutual
/-- `String(value)`. An object prints itself unless it has a `toString` of its own, which in
JSON data is not a function. -/
def text : JsonValue → Except Failure String
  | .null => .ok "null"
  | .bool true => .ok "true"
  | .bool false => .ok "false"
  | .number value => .ok (String.ofList (Json.numberChars value))
  | .string value => .ok value
  | .array items => do
    let texts ← itemTexts items
    pure (",".intercalate texts)
  | .object fields => do
    require (fields.lookup "toString").isNone
      (.typeError "Cannot convert object to primitive value")
    pure "[object Object]"
/-- What `join` makes of the items; it prints nothing for null. -/
def itemTexts : List JsonValue → Except Failure (List String)
  | [] => .ok []
  | .null :: rest => do
    let texts ← itemTexts rest
    pure ("" :: texts)
  | item :: rest => do
    let first ← text item
    let texts ← itemTexts rest
    pure (first :: texts)
end

/-- `if (!pattern.test(value)) throw failure` -/
def testPattern (pattern : String → Bool) (value : Option JsonValue) (failure : Failure) :
    Except Failure Unit := do
  let printed ← (value.map text).getD (.ok "undefined")
  require (pattern printed) failure

/-- Validate an execution plan or sanitized persisted reference at a process boundary. -/
def assertExecutionPlanRef (value : Option JsonValue) : Except Failure Unit := do
  let failure := Failure.typeError "Invalid execution plan reference"
  let plan ← requireSome value failure
  let hasManifest := (plan.get? "manifestDigest").isSome
  let expected :=
    if hasManifest then "executionId,generation,kind,manifestDigest,planDigest,runId,version"
    else "executionId,generation,kind,planDigest,runId,version"
  require (isObject plan && joinedKeys plan == expected &&
    (plan.get? "version").any (stringIn ["anastom.dev/owned-execution/v1alpha1"])) failure
  testPattern Text.identifier (plan.get? "runId") failure
  testPattern Text.uuid (plan.get? "executionId") failure
  require ((plan.get? "kind").any (stringIn ["runtime", "command"]) &&
    (plan.get? "generation").any isPositive) failure
  testPattern Text.digest (plan.get? "planDigest") failure
  if hasManifest then testPattern Text.digest (plan.get? "manifestDigest") failure

def startToken (token : String) : Bool :=
  !token.isEmpty && decide (token.utf8ByteSize ≤ 256) && !token.toList.contains (Char.ofNat 0)

/-- Validate a local identity before it can enter an ownership record. -/
def assertLocalProcessIdentity (value : Option JsonValue) : Except Failure Unit := do
  let failure := Failure.typeError "Invalid local process identity"
  let identity ← requireSome value failure
  require (identity.isRecord &&
    joinedKeys identity == "bootIdentityDigest,hostIdentityDigest,pid,startToken,version" &&
    (identity.get? "version").any (stringIn ["anastom.dev/local-process/v1alpha1"]) &&
    (identity.get? "hostIdentityDigest").any (stringWhere Text.digest) &&
    (identity.get? "bootIdentityDigest").any (stringWhere Text.digest) &&
    (identity.get? "pid").any isPositive &&
    (identity.get? "startToken").any (stringWhere startToken)) failure

def runtimeDescriptorValidator : JsonValue → Bool :=
  closedObject ["version", "runtimeId", "configurationVersion", "configuration"]
    [("version", stringIn ["anastom.dev/runtime-descriptor/v1alpha1"]),
      ("runtimeId", stringWhere Text.identifier),
      ("configurationVersion", stringWhere fun version =>
        decide (1 ≤ version.length ∧ version.length ≤ 256)),
      ("configuration", isRecord)]

def maxRuntimeDescriptorBytes : Nat := 16 * 1024

/-- Validate the shared descriptor envelope and its canonical UTF-8 persistence bound. -/
def assertRuntimeDescriptor (value : JsonValue) : Except Failure Unit := do
  require (runtimeDescriptorValidator value)
    (.preflight .policyViolation "Runtime returned an invalid descriptor")
  require (decide (Json.byteLength value ≤ maxRuntimeDescriptorBytes))
    (.preflight .policyViolation "Runtime descriptor exceeds 16 KiB")

def validString : JsonValue → Bool := stringWhere Anastom.validString

def noNul (s : String) : Bool := !s.toList.contains (Char.ofNat 0)

def validWorkspace (value : JsonValue) : Bool :=
  value.isRecord && (value.get? "id").any validString && (value.get? "mode").any isString &&
    if (value.get? "mode").any (stringIn ["memory"]) then value.exactKeys ["id", "mode"]
    else
      (value.get? "mode").any (stringIn ["readonly", "isolated"]) &&
        (value.get? "repoRoot").any validString && (value.get? "path").any validString &&
        (value.get? "baseCommit").any validString &&
        if (value.get? "mode").any (stringIn ["readonly"]) then
          value.exactKeys ["baseCommit", "id", "mode", "path", "repoRoot"]
        else
          value.exactKeys ["baseCommit", "id", "mode", "path", "repoRoot", "branch"] &&
            (value.get? "branch").any validString

def validBudget (value : JsonValue) : Bool :=
  value.isRecord && value.hasOnlyKeys ["maxAttempts"] ["maxDurationMs"] &&
    (value.get? "maxAttempts").any isPositive && (value.get? "maxDurationMs").all isPositive

def validCommand (value : JsonValue) : Bool :=
  value.isRecord && value.exactKeys ["argv", "cwd", "maxDurationMs", "maxOutputBytes"] &&
    (value.get? "argv").any (arrayWhere 1 validString) &&
    (value.get? "cwd").any (stringWhere noNul) && (value.get? "maxDurationMs").any isPositive &&
    (value.get? "maxOutputBytes").any isPositive

def validProducer (value : JsonValue) : Bool :=
  value.isRecord && value.exactKeys ["attempt", "nodeId", "runId"] &&
    (value.get? "runId").any validString && (value.get? "nodeId").any validString &&
    (value.get? "attempt").any isPositive

def validArtifact (value : JsonValue) : Bool :=
  value.isRecord && value.exactKeys ["digest", "id", "mediaType", "producer", "type", "uri"] &&
    (value.get? "id").any validString && (value.get? "type").any validString &&
    (value.get? "mediaType").any validString && (value.get? "uri").any validString &&
    (value.get? "digest").any (stringWhere Text.digest) &&
    (value.get? "producer").any validProducer

def validRole (value : JsonValue) : Bool :=
  value.isRecord && value.exactKeys ["id"] && (value.get? "id").any validString

def contextOptionalKeys : List String :=
  ["allowedMutations", "artifacts", "attempt", "budget", "nodeId", "requiredOutputSchema", "role",
    "runId", "task", "verification", "version", "workflowInstanceId", "workspace"]

def validContextScalars (value : JsonValue) : Bool :=
  (value.get? "version").all (stringIn ["anastom.dev/context/v1alpha1"]) &&
    (value.get? "runId").all validString && (value.get? "workflowInstanceId").all validString &&
    (value.get? "nodeId").all validString && (value.get? "attempt").all isPositive &&
    (value.get? "allowedMutations").all (stringIn ["readonly", "isolated"])

def validContextStructures (value : JsonValue) : Bool :=
  (value.get? "workspace").all validWorkspace && (value.get? "budget").all validBudget &&
    (value.get? "verification").all validCommand &&
    (value.get? "artifacts").all (arrayWhere 0 validArtifact) &&
    (value.get? "role").all validRole

def validTask (value : JsonValue) : Bool :=
  value.isRecord && value.exactKeys ["acceptanceCriteria", "id", "objective", "version"] &&
    (value.get? "id").any validString && (value.get? "version").any validString &&
    (value.get? "objective").any validString &&
    (value.get? "acceptanceCriteria").any (arrayWhere 0 validString)

def validContextTask (value : JsonValue) : Bool := (value.get? "task").all validTask

/-- JSON data always has a canonical text, which the source tries last. -/
def validContext (value : JsonValue) : Bool :=
  value.isRecord && value.hasOnlyKeys ["dependencyOutputs", "inputs"] contextOptionalKeys &&
    (value.get? "inputs").any isRecord && (value.get? "dependencyOutputs").any isRecord &&
    validContextScalars value && validContextStructures value && validContextTask value

def validToolPolicy (value : JsonValue) : Bool :=
  value.isRecord && value.exactKeys ["allowMutations"] &&
    (value.get? "allowMutations").any isBoolean

/-- Validate an exact persisted execution request. -/
def assertExecutionRequest (value : JsonValue) : Except Failure Unit :=
  require (value.isRecord &&
    value.hasOnlyKeys ["attempt", "budget", "context", "nodeId", "nodeKind",
      "requiredOutputSchema", "runId", "toolPolicy", "workflowInstanceId", "workspace"] ["role"] &&
    (value.get? "runId").any validString && (value.get? "workflowInstanceId").any validString &&
    (value.get? "nodeId").any validString &&
    (value.get? "nodeKind").any (stringIn ["agent", "command", "gate", "verifier"]) &&
    (value.get? "attempt").any isPositive && (value.get? "workspace").any validWorkspace &&
    (value.get? "context").any validContext && (value.get? "budget").any validBudget &&
    (value.get? "requiredOutputSchema").any isRecord &&
    (value.get? "toolPolicy").any validToolPolicy && (value.get? "role").all validRole &&
    decide (Json.byteLength value ≤ maxExecutionRequestBytes))
    (.error "Invalid persisted execution request")

def assertCommandDefinition (command : JsonValue) : Except Failure Unit :=
  require (isObject command && joinedKeys command == "argv,cwd,maxDurationMs,maxOutputBytes" &&
    (command.get? "argv").any (arrayWhere 1 validString) &&
    (command.get? "cwd").any (stringWhere noNul) &&
    (command.get? "maxDurationMs").any (integerIn 1 2147483647) &&
    (command.get? "maxOutputBytes").any (integerIn 1 16777216))
    (.typeError "Invalid command definition")

def assertFilesystemWorkspace (workspace : JsonValue) : Except Failure Unit := do
  require (workspace != .null) (.typeError "Cannot convert undefined or null to object")
  let failure := Failure.typeError "Command execution requires an exact filesystem workspace"
  let mode := workspace.get? "mode"
  let validKeys :=
    if mode.any (stringIn ["readonly"]) then "baseCommit,id,mode,path,repoRoot"
    else "baseCommit,branch,id,mode,path,repoRoot"
  require (mode.any (stringIn ["readonly", "isolated"]) && joinedKeys workspace == validKeys)
    failure
  testPattern Text.identifier (workspace.get? "id") failure
  require ((workspace.get? "repoRoot").any truthy && (workspace.get? "path").any truthy &&
    (workspace.get? "baseCommit").any truthy &&
    (!mode.any (stringIn ["isolated"]) || (workspace.get? "branch").any truthy)) failure

/-- The private launch input by the kind of execution. -/
inductive Launch where
  | runtime (descriptor request : JsonValue)
  | command (definition workspace : JsonValue)

/-- Input used to construct an exact plan and prepare request before persistence. -/
structure UnplannedExecution where
  runId : JsonValue
  executionId : JsonValue
  generation : JsonValue
  coordinator : JsonValue
  launch : Launch

def Launch.kind : Launch → String
  | .runtime .. => "runtime"
  | .command .. => "command"

def Launch.fields : Launch → List (String × JsonValue)
  | .runtime descriptor request => [("descriptor", descriptor), ("request", request)]
  | .command definition workspace => [("command", definition), ("workspace", workspace)]

def planDigestInput (input : UnplannedExecution) : JsonValue :=
  .object ([("version", .string "anastom.dev/execution-plan/v1alpha1"), ("runId", input.runId),
    ("executionId", input.executionId), ("generation", input.generation),
    ("coordinator", input.coordinator), ("kind", .string input.launch.kind)] ++
    input.launch.fields)

/-- The launch input that the kind of the plan calls for, if both its parts are there. -/
def launchOf (kind : Option JsonValue) (value : JsonValue) : Option Launch :=
  if kind.any (stringIn ["runtime"]) then
    (value.get? "descriptor").bind fun descriptor =>
      (value.get? "request").map (Launch.runtime descriptor)
  else if kind.any (stringIn ["command"]) then
    (value.get? "command").bind fun definition =>
      (value.get? "workspace").map (Launch.command definition)
  else none

/-- The checks of a launch input that are particular to its kind. -/
def assertLaunch (plan value : JsonValue) : Launch → Except Failure Unit
  | .runtime descriptor request => do
    require (joinedKeys value == "coordinator,descriptor,plan,request")
      (.typeError "Invalid runtime prepare fields")
    assertRuntimeDescriptor descriptor
    assertExecutionRequest request
    require (sameString (request.get? "runId") (plan.get? "runId"))
      (.typeError "Execution request belongs to another run")
  | .command definition workspace => do
    require (joinedKeys value == "command,coordinator,plan,workspace")
      (.typeError "Invalid command prepare fields")
    assertCommandDefinition definition
    assertFilesystemWorkspace workspace

/-- What the digest of a plan is checked against. -/
def unplanned (plan value : JsonValue) : Option UnplannedExecution := do
  let runId ← plan.get? "runId"
  let executionId ← plan.get? "executionId"
  let generation ← plan.get? "generation"
  let coordinator ← value.get? "coordinator"
  let launch ← launchOf (plan.get? "kind") value
  pure { runId, executionId, generation, coordinator, launch }

/-- Validate exact plan identity and recompute its digest before any supervisor side effect. -/
def assertPrepareExecution (hash : Hash) (value : JsonValue) : Except Failure Unit := do
  require (value != .null) (.typeError "Cannot read properties of null (reading 'plan')")
  assertExecutionPlanRef (value.get? "plan")
  assertLocalProcessIdentity (value.get? "coordinator")
  let plan := (value.get? "plan").getD .null
  let launch ← requireSome (launchOf (plan.get? "kind") value)
    (.typeError "Execution kind and launch input disagree")
  assertLaunch plan value launch
  -- A field that the plan lacked would be `undefined`, which has no canonical text.
  let input ← requireSome (unplanned plan value)
    (.error "Canonical JSON requires finite JSON values")
  require (sameString (some (.string (hash.digestJson (planDigestInput input))))
    (plan.get? "planDigest"))
    (.typeError "Execution plan digest does not match its launch input")
  require (decide (Json.byteLength value ≤ 4 * 1024 * 1024))
    (.rangeError "Private execution launch exceeds 4 MiB")

/-- The plan of a launch input, with the digest that binds it. -/
def planOf (hash : Hash) (input : UnplannedExecution) : JsonValue :=
  .object [("version", .string "anastom.dev/owned-execution/v1alpha1"), ("runId", input.runId),
    ("executionId", input.executionId), ("kind", .string input.launch.kind),
    ("generation", input.generation),
    ("planDigest", .string (hash.digestJson (planDigestInput input)))]

/-- The launch request of an input; `structuredClone` changes nothing about JSON data. -/
def prepareOf (hash : Hash) (input : UnplannedExecution) : JsonValue :=
  .object ([("plan", planOf hash input), ("coordinator", input.coordinator)] ++
    input.launch.fields)

/-- Construct a launch request whose public plan digest binds every private launch input. -/
def createPrepareExecution (hash : Hash) (input : UnplannedExecution) :
    Except Failure JsonValue := do
  assertPrepareExecution hash (prepareOf hash input)
  pure (prepareOf hash input)

mutual
/-- The value with the keys of its objects sorted. -/
def sorted : JsonValue → JsonValue
  | .array items => .array (sortedItems items)
  | .object fields => .object ((sortedFields fields).insertionSort (Json.entryLe Prod.fst))
  | value => value
def sortedItems : List JsonValue → List JsonValue
  | [] => []
  | item :: rest => sorted item :: sortedItems rest
def sortedFields : List (String × JsonValue) → List (String × JsonValue)
  | [] => []
  | (key, value) :: rest => (key, sorted value) :: sortedFields rest
end

/-- `isDeepStrictEqual(left, right)` of JSON data: the order of keys does not matter, the
sign of zero does. -/
def isDeepStrictEqual (left right : JsonValue) : Bool := sorted left == sorted right

def planFields : List String :=
  ["version", "runId", "executionId", "kind", "generation", "planDigest"]

/-- Confirm that a persisted reference is the same plan plus one manifest identity digest. -/
def assertPersistedExecutionRef (value plan : Option JsonValue) : Except Failure Unit := do
  assertExecutionPlanRef value
  assertExecutionPlanRef plan
  let persistedPlan := JsonValue.object (planFields.flatMap fun key =>
    JsonValue.optional key ((value.bind fun reference => reference.get? key)))
  require (isDeepStrictEqual persistedPlan (plan.getD .null))
    (.typeError "Persisted execution reference belongs to another plan")

/-- The stable fields of a manifest. -/
def stableManifest (manifest : JsonValue) : JsonValue :=
  .object (["version", "plan", "capabilityDigest", "controlDigest", "supervisor"].flatMap
    fun key => JsonValue.optional key (manifest.get? key))

/-- Digest the stable fields of a manifest independently of lifecycle state. -/
def executionManifestDigest (hash : Hash) (manifest : JsonValue) : String :=
  hash.digestBytes (Json.canonicalJson (stableManifest manifest))

def processIdentityFields : List String :=
  ["version", "hostIdentityDigest", "bootIdentityDigest", "pid", "startToken"]

def assertPrivateProcessIdentity (value : Option JsonValue) : Except Failure Unit := do
  let failure := Failure.typeError "Invalid private process identity"
  let identity ← requireSome value failure
  require (identity.isRecord && identity.exactKeys ["bootIdentityDigest", "hostIdentityDigest",
      "pid", "processGroupId", "startToken", "state", "version"] &&
    (identity.get? "processGroupId").any isPositive &&
    (identity.get? "state").any (stringWhere fun state => !state.isEmpty)) failure
  assertLocalProcessIdentity (some (.object (processIdentityFields.flatMap fun key =>
    JsonValue.optional key (identity.get? key))))

/-- Validate immutable start authorization for one persisted execution. -/
def assertExecutionStartAuthority (value : JsonValue) : Except Failure Unit := do
  require (value.isRecord &&
    value.exactKeys ["capabilityDigest", "execution", "supervisor", "version"] &&
    (value.get? "version").any (stringIn [executionProtocolVersion]) &&
    (value.get? "capabilityDigest").any (stringWhere Text.digest))
    (.typeError "Invalid execution start authority")
  assertExecutionPlanRef (value.get? "execution")
  assertPrivateProcessIdentity (value.get? "supervisor")

/-- Validate an exact private plan record. -/
def assertExecutionPlanRecord (value : JsonValue) : Except Failure Unit := do
  require (value.isRecord && value.exactKeys ["coordinator", "plan", "version"])
    (.typeError "Invalid execution plan record")
  require ((value.get? "version").any (stringIn [executionProtocolVersion]))
    (.typeError "Unknown execution plan record version")
  assertExecutionPlanRef (value.get? "plan")
  assertLocalProcessIdentity (value.get? "coordinator")

/-- Both texts are there and the same. -/
def sameText (left right : Option JsonValue) : Bool :=
  left.map Json.canonicalJson == right.map Json.canonicalJson

/-- Digest a private capability before binding it into persistent identity. -/
def executionCapabilityDigest (hash : Hash) (capability : String) : String :=
  hash.digestBytes ("anastom.dev/execution-capability/v1alpha1\n" ++ capability)

/-- What a supervisor starts from: the launch input of its frame, the plan record it reads,
its own process identity, and the coordinates it makes up. -/
structure Supervisor where
  prepare : JsonValue
  planRecord : JsonValue
  identity : JsonValue
  capability : String
  endpoint : String
  state : String

namespace Supervisor
variable (hash : Hash) (supervisor : Supervisor)

def plan : JsonValue := (supervisor.planRecord.get? "plan").getD .null

def control : JsonValue :=
  .object ([("version", .string executionProtocolVersion)] ++
    JsonValue.optional "executionId" (supervisor.plan.get? "executionId") ++
    JsonValue.optional "generation" (supervisor.plan.get? "generation") ++
    [("capability", .string supervisor.capability), ("endpoint", .string supervisor.endpoint)])

def manifest : JsonValue :=
  .object [("version", .string executionProtocolVersion), ("plan", supervisor.plan),
    ("capabilityDigest", .string (executionCapabilityDigest hash supervisor.capability)),
    ("controlDigest", .string (hash.digestJson supervisor.control)),
    ("supervisor", supervisor.identity), ("state", .string supervisor.state)]

/-- The checks of a launch frame against the persisted plan. -/
def assertLaunched : Except Failure Unit := do
  assertPrepareExecution hash supervisor.prepare
  assertExecutionPlanRecord supervisor.planRecord
  require (sameText (supervisor.planRecord.get? "plan") (supervisor.prepare.get? "plan") &&
    sameText (supervisor.planRecord.get? "coordinator") (supervisor.prepare.get? "coordinator"))
    (.error "Execution launch does not match its persisted plan identity")

/-- The start authority that was read authenticates this supervisor. -/
def readAuthority (authority : JsonValue) : Except Failure Unit := do
  assertExecutionStartAuthority authority
  let execution := (authority.get? "execution").getD .null
  assertPersistedExecutionRef (authority.get? "execution") (supervisor.planRecord.get? "plan")
  require (sameString (some (.string (executionManifestDigest hash (supervisor.manifest hash))))
      (execution.get? "manifestDigest") &&
    sameString (authority.get? "capabilityDigest")
      (some (.string (executionCapabilityDigest hash supervisor.capability))) &&
    sameText (authority.get? "supervisor") (some supervisor.identity))
    (.error "Start authority does not authenticate this supervisor")

end Supervisor
end Anastom.LaunchRecord
