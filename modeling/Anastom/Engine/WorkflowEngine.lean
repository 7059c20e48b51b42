import Anastom.Engine.Scheduling
import Anastom.Runtime.Negotiation
import Anastom.Transition.Program

/-! Sequential event-driven orchestration of a run, as a program that asks the store, the
reducer, the runtime and the workspace, and may be answered in any way. -/
namespace Anastom

structure PersistedRun where
  workflow : WorkflowDefinition
  events : List RunEvent
  deriving DecidableEq

structure ArtifactWrite where
  runId : String
  nodeId : String
  attempt : Nat
  type : String
  mediaType : String
  bytes : List UInt8

structure CommandExecution where
  output : CommandReport
  stdout : List UInt8
  stderr : List UInt8
  failure : Option ExecutionFailure

structure WorkspaceCapture where
  headCommit : String
  diff : String
  changedFiles : List String

/-- A promise raced against the attempt's deadline. -/
inductive Awaited (α : Type) where
  | value (a : α)
  | threw (failure : Failure)
  | expired

/-- The observations a runtime streams before the stream ends, fails, or outlasts the deadline. -/
structure RuntimeStream where
  events : List RuntimeEvent
  ending : Awaited Unit

/-- `cancel()` raced against its grace period. -/
inductive CancelAnswer where
  | succeeded | failed | unsettled
  deriving DecidableEq

/-- What the engine asks of its surroundings. The reducer is among them, so that a run of the
program shows every proposed batch with its verdict. The calls of an attempt carry its
request. -/
inductive EngineCall where
  | createRunId
  | capabilities
  | load (runId : String)
  | create (runId : String) (run : PersistedRun)
  | append (runId : String) (expectedSequence : Nat) (events : List RunEvent)
  | materializeEvents (current : Option RunState) (runId : String)
      (payloads : List RunEventPayload)
  | writeArtifact (artifact : ArtifactWrite)
  | executeCommand (command : CommandDefinition) (workspace : WorkspaceRef)
  | captureWorkspace (request : ExecutionRequest)
  | start (request : ExecutionRequest)
  | events (request : ExecutionRequest)
  | collect (request : ExecutionRequest)
  /-- Whether the deadline passed while an observation was being stored. -/
  | overdue (request : ExecutionRequest)
  /-- Whether `start` has returned a handle after the deadline. -/
  | handle (request : ExecutionRequest)
  | cancel (request : ExecutionRequest)
  /-- The operation raced against its grace period after the deadline. -/
  | late (request : ExecutionRequest)

def EngineCall.Answer : EngineCall → Type
  | createRunId => String
  | capabilities => Except Failure RuntimeCapabilities
  | load _ => Except Failure (Option PersistedRun)
  | create .. | append .. => Except Failure Unit
  | materializeEvents .. => Except Failure (List RunEvent × RunState)
  | writeArtifact _ => Except Failure ArtifactRef
  | executeCommand .. => Except Failure CommandExecution
  | captureWorkspace _ => Except Failure WorkspaceCapture
  | start _ => Awaited Unit
  | events _ => RuntimeStream
  | collect _ => Awaited ExecutionResult
  | overdue _ | handle _ => Bool
  | cancel _ => CancelAnswer
  | late _ => Except Failure (Option ExecutionResult)

def engineInterface : Interface := ⟨EngineCall, EngineCall.Answer⟩

/-- An engine function with local variables `σ`. -/
abbrev EngineM (σ α : Type) : Type := Driver engineInterface Failure σ α

inductive ExecutionMode where
  | fake | worker
  deriving DecidableEq

/-- Execution policy of an engine. `schemaError` is the text of a schema that does not compile. -/
structure WorkflowEngineOptions where
  runtimeId : String
  executionMode : ExecutionMode
  artifacts : Bool
  captureWorkspace : Bool
  ajv : Ajv
  schemaError : JsonValue → String

structure CreateRunOptions where
  runId : Option String := none
  inputs : Option (List (String × JsonValue)) := none
  workspace : Option WorkspaceRef := none
  runtimeNegotiation : Option RuntimeNegotiation := none

namespace WorkflowEngine
open Driver

def Failure.message : Failure → String
  | .error message | .typeError message | .rangeError message | .invalidTransition message
  | .preflight _ message | .store _ message => message
  | .runNotFound runId => "Run " ++ runId ++ " was not found"
  | .ownershipBlocked .leaseActive => "Run ownership is unavailable: lease-active"
  | .ownershipBlocked .ownerAlive => "Run ownership is unavailable: owner-alive"
  | .ownershipBlocked .ownerUnknown => "Run ownership is unavailable: owner-unknown"

def utf8 (s : String) : List UInt8 := s.toUTF8.toList

/-- The errors of a structured value against its schema; none when it is valid. -/
def validateJsonValue (options : WorkflowEngineOptions) (schema value : JsonValue) : List String :=
  if options.ajv.compiles schema then options.ajv.errors schema value
  else ["invalid JSON Schema: " ++ options.schemaError schema]

def validateInputs (options : WorkflowEngineOptions) (workflow : WorkflowDefinition)
    (inputs : List (String × JsonValue)) : Except Failure Unit :=
  let declared := workflow.inputs.map Prod.fst
  let received := inputs.map Prod.fst
  let missing := declared.filter fun id => !received.contains id
  let unknown := received.filter fun id => !declared.contains id
  let listed (text : String) (ids : List String) : List String :=
    if ids.isEmpty then [] else [text ++ String.intercalate ", " ids]
  let invalid := workflow.inputs.filterMap fun (id, definition) =>
    (inputs.lookup id).bind fun value =>
      match validateJsonValue options definition.schema value with
      | [] => none
      | errors => some ("input " ++ id ++ ": " ++ String.intercalate "; " errors)
  let errors := listed "missing workflow inputs: " missing ++
    listed "unknown workflow inputs: " unknown ++ invalid
  require errors.isEmpty (.error ("Invalid run inputs:\n" ++
    String.intercalate "\n" (errors.map fun error => "- " ++ error)))

def verifierFailure (output : JsonValue) : Option ExecutionFailure :=
  let passed := match output with
    | .object fields => fields.lookup "passed"
    | _ => none
  match passed with
  | some (.bool true) => none
  | some (.bool false) =>
    some { category := .verification, message := "Verifier reported that its checks failed" }
  | _ => some { category := .schemaViolation,
                message := "Verifier output must contain a boolean passed field" }

def blockedNodePayloads (state : RunState) (exceptNodeId reason : String) : List RunEventPayload :=
  (state.nodes.filter fun node => node.id != exceptNodeId &&
      (node.status == .pending || node.status == .ready)).map fun node =>
    .nodeBlocked node.id reason

structure RuntimeObservationFilter where
  seen : List String := []
  usageSeen : Bool := false

/-- Whether an observation is new, and the filter that has seen it. -/
def RuntimeObservationFilter.accept (filter : RuntimeObservationFilter) (event : RuntimeEvent) :
    Except Failure (Bool × RuntimeObservationFilter) :=
  let key := Json.canonicalJson event.toJson
  let isUsage := match event with
    | .usage _ => true
    | _ => false
  match event with
  | .metadata _ | .usage _ =>
    if filter.seen.contains key then .ok (false, filter)
    else if isUsage && filter.usageSeen then
      .error (.error "Runtime emitted conflicting final usage")
    else .ok (true, { seen := key :: filter.seen, usageSeen := filter.usageSeen || isUsage })
  | _ => .ok (true, filter)

def requireRun (runId : String) : EngineM σ PersistedRun := do
  let loaded ← ask (I := engineInterface) (.load runId)
  let run ← lift loaded
  lift (requireSome run (.runNotFound runId))

def requireState (runId : String) : EngineM σ RunState := do
  let run ← requireRun runId
  lift (replayRun run.events)

def commit (runId : String) (state : RunState) (payloads : List RunEventPayload) :
    EngineM σ RunState :=
  if payloads.isEmpty then pure state else do
    let transition ← ask (I := engineInterface) (.materializeEvents (some state) runId payloads)
    let (events, next) ← lift transition
    let appended ← ask (I := engineInterface) (.append runId state.sequence events)
    lift appended
    pure next

/-- The local variables of `executeAttempt`, which its closures update. -/
structure AttemptLocals where
  state : RunState
  result : ExecutionResult
  unsafeToRetry : Bool
  logs : List UInt8

section attempt
variable (options : WorkflowEngineOptions) (request : ExecutionRequest)

def record (payload : RunEventPayload) : EngineM AttemptLocals Unit := do
  let locals ← get
  let state ← commit request.runId locals.state [payload]
  modify fun locals => { locals with state }

def recordArtifact (type mediaType : String) (bytes : List UInt8) :
    EngineM AttemptLocals (Option ArtifactRef) :=
  if !options.artifacts then pure none else do
    let written ← ask (I := engineInterface) (.writeArtifact {
      runId := request.runId, nodeId := request.nodeId, attempt := request.attempt,
      type, mediaType, bytes })
    let artifact ← lift written
    record request (.artifactProduced request.nodeId request.attempt artifact)
    pure (some artifact)

/-- Store one observation and keep the first mebibyte of logs. -/
def observe (event : RuntimeEvent) : EngineM AttemptLocals Unit := do
  record request (.runtimeEventObserved request.nodeId request.attempt event)
  match event with
  | .log message _ => modify fun locals =>
      if locals.logs.length < 1048576 then
        { locals with
          logs := locals.logs ++ (utf8 (message ++ "\n")).take (1048576 - locals.logs.length) }
      else locals
  | _ => pure ()

/-- The failed result of an operation that threw; its cancellation is not awaited. -/
def operationFailure : Failure → ExecutionResult
  | .preflight .policyViolation message => .failed { category := .policyViolation, message }
  | .preflight .runtimeUnavailable message => .failed { category := .runtimeUnavailable, message }
  | _ => .failed {
      category := .runtimeUnavailable
      message := "Runtime start, stream, or collection failed; check runtime configuration" }

/-- What became of a stream: drained, or failed by a failure. -/
inductive Streamed where
  | drained
  | errored (failure : Failure)

/-- The failure to store an observation, if it fails. -/
def observationFailure (event : RuntimeEvent) : EngineM AttemptLocals (Option Failure) :=
  tryCatch (do observe request event; pure none) fun failure => pure (some failure)

/-- The loop over a stream. An observation that cannot be stored fails the operation, unless
the deadline has passed by then, which awaits the observation itself. -/
def observeAll : RuntimeObservationFilter → List RuntimeEvent → EngineM AttemptLocals Streamed
  | _, [] => pure .drained
  | filter, event :: rest =>
    if !event.valid then pure (.errored (.error "Invalid public runtime observation"))
    else match filter.accept event with
      | .error failure => pure (.errored failure)
      | .ok (false, filter) => observeAll filter rest
      | .ok (true, filter) => do
        let stored ← observationFailure request event
        match stored with
        | none => observeAll filter rest
        | some failure =>
          let overdue : Bool ← ask (I := engineInterface) (.overdue request)
          if overdue then throw failure else pure (.errored failure)

/-- A normalized result and whether its operation may still be running. -/
structure Execution where
  result : ExecutionResult
  unsafeToRetry : Bool

/-- Whether the runtime has returned a handle by the deadline. -/
def hasHandle (started : Bool) : EngineM AttemptLocals Bool :=
  if started then pure true else ask (I := engineInterface) (.handle request)

/-- Only an execution with a handle can be cancelled. -/
def cancelHandle (handle : Bool) : EngineM AttemptLocals (Option CancelAnswer) :=
  if handle then some <$> ask (I := engineInterface) (.cancel request) else pure none

def cancellationOutcome : Option CancelAnswer → CancellationOutcome
  | none => .unavailable
  | some .succeeded => .succeeded
  | some .failed | some .unsettled => .failed

/-- The deadline has passed: cancel, then wait once more for the operation. -/
def timedOut (started : Bool) : EngineM AttemptLocals Execution := do
  record request (.attemptTimeoutRequested request.nodeId request.attempt)
  let handle ← hasHandle request started
  let cancelled ← cancelHandle request handle
  record request (.attemptCancellationCompleted request.nodeId request.attempt
    (cancellationOutcome cancelled))
  let awaited ← ask (I := engineInterface) (.late request)
  let late ← lift awaited
  match late with
  | some result =>
    record request (.lateResultObserved request.nodeId request.attempt result.status)
  | none => pure ()
  pure {
    result := .failed {
      category := .budgetExhausted, message := "Attempt exceeded its duration limit" }
    unsafeToRetry := cancelled != some .succeeded || late.isNone }

def executeRuntime : EngineM AttemptLocals Execution := do
  let started ← ask (I := engineInterface) (.start request)
  match started with
  | .expired => timedOut request false
  | .threw failure => pure ⟨operationFailure failure, true⟩
  | .value () => do
    let stream ← ask (I := engineInterface) (.events request)
    let streamed ← observeAll request {} stream.events
    match streamed with
    | .errored failure => pure ⟨operationFailure failure, true⟩
    | .drained =>
      match stream.ending with
      | .expired => timedOut request true
      | .threw failure => pure ⟨operationFailure failure, true⟩
      | .value () => do
        let collected ← ask (I := engineInterface) (.collect request)
        match collected with
        | .expired => timedOut request true
        | .threw failure => pure ⟨operationFailure failure, true⟩
        | .value result => pure ⟨result, false⟩

def runCommand (node : WorkflowNode) : EngineM AttemptLocals Unit := do
  let command ← lift (requireSome node.command (.error "Missing command definition"))
  let executed ← ask (I := engineInterface) (.executeCommand command request.workspace)
  let execution ← lift executed
  let _ ← recordArtifact options request "stdout" "text/plain" execution.stdout
  let _ ← recordArtifact options request "stderr" "text/plain" execution.stderr
  let _ ← recordArtifact options request "command-result" "application/json"
    (utf8 (Json.canonicalJson execution.output.toJson))
  record request (.commandCompleted request.nodeId request.attempt execution.output)
  modify fun locals => { locals with
    result := match execution.failure with
      | some failure => .failed failure
      | none => .succeeded execution.output.toJson }

def runWorker : EngineM AttemptLocals Unit := do
  let execution ← executeRuntime request
  modify fun locals => { locals with
    result := execution.result, unsafeToRetry := execution.unsafeToRetry }
  let locals ← get
  let _ ← recordArtifact options request "logs" "text/plain" locals.logs
  match execution.result with
  | .succeeded output =>
    let _ ← recordArtifact options request "worker-report" "application/json"
      (utf8 (Json.canonicalJson output))
    pure ()
  | _ => pure ()

/-- Whether the node runs as a verified command of its worker. -/
def runsCommand (node : WorkflowNode) : Bool :=
  options.executionMode == .worker && node.kind == .command

def runNode (node : WorkflowNode) : EngineM AttemptLocals Unit :=
  if runsCommand options node then runCommand options request node else runWorker options request

/-- A readonly workspace may not change. -/
def checkReadonly (capture : WorkspaceCapture) : EngineM AttemptLocals Unit :=
  if request.workspace.mode == .readonly && !capture.changedFiles.isEmpty then
    modify fun locals => { locals with result := .failed {
      category := .policyViolation, message := "Readonly workspace was mutated" } }
  else pure ()

/-- Record what the attempt left in its workspace. -/
def observeWorkspace (node : WorkflowNode) : EngineM AttemptLocals Unit := do
  let locals ← get
  if options.captureWorkspace && !locals.unsafeToRetry &&
      (node.kind == .agent || runsCommand options node) then
    let captured ← ask (I := engineInterface) (.captureWorkspace request)
    let capture ← lift captured
    checkReadonly request capture
    let diff ← recordArtifact options request "diff" "text/x-diff" (utf8 capture.diff)
    match diff with
    | some diff => record request (.workspaceObserved request.nodeId request.attempt
        capture.headCommit capture.changedFiles diff.id)
    | none => pure ()

/-- A failure inside the attempt becomes its result, unless its budget is exhausted. -/
def failAttempt (failure : Failure) : EngineM AttemptLocals Unit :=
  modify fun locals =>
    match locals.result with
    | .failed { category := .budgetExhausted, .. } => locals
    | _ => { locals with
        result := .failed { category := .unknownInternal, message := Failure.message failure } }

/-- Record the context, run the node and observe its workspace. -/
def attemptNode (node : WorkflowNode) : EngineM AttemptLocals Unit := do
  let _ ← recordArtifact options request "context" "application/json"
    (utf8 request.context.bytes)
  runNode options request node
  observeWorkspace options request node

/-- Execute and record evidence before any result can change node success or retry policy. -/
def executeAttempt (node : WorkflowNode) (state : RunState) : EngineM σ AttemptLocals := do
  let (_, locals) ← withLocals (tryCatch (attemptNode options request node) failAttempt) {
    state
    result := .failed { category := .unknownInternal, message := "Attempt did not complete" }
    unsafeToRetry := false
    logs := [] }
  pure locals

/-- The failure an output amounts to once it is validated. -/
def outputFailure (node : WorkflowNode) (output : JsonValue) : Option ExecutionFailure :=
  match validateJsonValue options node.output.schema output with
  | [] => if node.kind = .verifier then verifierFailure output else none
  | errors => some {
      category := .schemaViolation
      message := "Output for " ++ request.nodeId ++ " is invalid: " ++
        String.intercalate "; " errors }

def cancellablePayloads (state : RunState) (exceptNodeId reason : String) :
    List RunEventPayload :=
  (state.nodes.filter fun candidate => candidate.status != .succeeded &&
      candidate.status != .failed && candidate.id != exceptNodeId).map fun candidate =>
    .nodeCancelled candidate.id reason

/-- Record a failed attempt, then retry within the budget or fail the run. -/
def finishFailed (node : WorkflowNode) (state : RunState) (unsafeToRetry : Bool)
    (failure : ExecutionFailure) : EngineM σ RunState := do
  let state ← commit request.runId state
    [.attemptFailed request.nodeId request.attempt failure]
  if !unsafeToRetry && request.attempt < node.attemptBudget.maxAttempts then
    commit request.runId state [.nodeReady request.nodeId .retry]
  else
    let state ← commit request.runId state [.nodeFailed request.nodeId failure]
    let reason := if unsafeToRetry then "Runtime termination was not confirmed; retry is unsafe"
      else "Node " ++ request.nodeId ++ " exhausted " ++
        toString node.attemptBudget.maxAttempts ++ " attempt(s)"
    commit request.runId state
      (blockedNodePayloads state request.nodeId reason ++ [.runCompleted .failed])

/-- Record a succeeded node and advance the graph. -/
def finishSucceeded (workflow : WorkflowDefinition) (state : RunState) (output : JsonValue) :
    EngineM σ RunState := do
  let state ← commit request.runId state
    [.attemptSucceeded request.nodeId request.attempt output, .nodeSucceeded request.nodeId]
  let state ← commit request.runId state ((findExecutableNodes workflow state).map fun readyNodeId =>
    .nodeReady readyNodeId .dependenciesSatisfied)
  if state.nodes.all (·.status == .succeeded) then
    commit request.runId state [.runCompleted .succeeded]
  else pure state

/-- Decide blocked, cancelled, validation, retry and graph advancement. -/
def finishAttempt (workflow : WorkflowDefinition) (node : WorkflowNode)
    (executed : AttemptLocals) : EngineM σ RunState :=
  let state := executed.state
  let nodeId := request.nodeId
  match executed.result with
  | .blocked reason => commit request.runId state
      ([.attemptBlocked nodeId request.attempt reason, .nodeBlocked nodeId reason] ++
        blockedNodePayloads state nodeId reason ++ [.runBlocked reason])
  | .cancelled reason => commit request.runId state
      ([.attemptCancelled nodeId request.attempt reason, .nodeCancelled nodeId reason] ++
        cancellablePayloads state nodeId reason ++ [.runCancelled none reason])
  | .failed failure => finishFailed request node state executed.unsafeToRetry failure
  | .succeeded output =>
    match outputFailure options request node output with
    | some failure => finishFailed request node state executed.unsafeToRetry failure
    | none => finishSucceeded request workflow state output

end attempt

section runs
variable (options : WorkflowEngineOptions)

/-- The boundary checks of a worker run. -/
def checkWorkerRun (workflow : WorkflowDefinition) (workspace : Option WorkspaceRef) :
    Except Failure MutationMode := do
  let mode ← requireSome ((workspace.filter fun _ => options.artifacts).bind WorkspaceRef.mutation?)
    (.error "Worker runs require durable artifacts and a filesystem workspace")
  for (_, node) in workflow.nodes do
    require (node.kind == .agent || (node.kind == .command && node.command.isSome))
      (.error ("Unsupported worker node: " ++ node.id))
    require (node.kind != .agent || node.mutation.isSome)
      (.error "Agent mutation intent is required")
    require (node.mutation.all (· == mode))
      (.error "Workspace mode does not match mutation intent")
  pure mode

/-- The negotiation the caller brings, or one probed from the runtime. -/
def probeOnce (create : CreateRunOptions) (mode : MutationMode) : EngineM σ RuntimeNegotiation :=
  match create.runtimeNegotiation with
  | some negotiation => pure negotiation
  | none => do
    let capabilities ← ask (I := engineInterface) .capabilities
    lift (probeRuntime capabilities options.runtimeId mode)

/-- The negotiation a worker run records; other runs need none. -/
def negotiate (workflow : WorkflowDefinition) (create : CreateRunOptions) :
    EngineM σ (Option RuntimeNegotiation) :=
  if options.executionMode != .worker then pure none else do
    let mode ← lift (checkWorkerRun options workflow create.workspace)
    let negotiation ← probeOnce options create mode
    lift (assertRuntimeNegotiation negotiation options.runtimeId mode)
    pure (some negotiation)

/-- The caller's run id, or a new one. -/
def chooseRunId (create : CreateRunOptions) : EngineM σ String :=
  match create.runId with
  | some runId => pure runId
  | none => ask (I := engineInterface) .createRunId

def proposed (current : Option RunState) (runId : String) (payloads : List RunEventPayload) :
    EngineM σ (List RunEvent × RunState) := do
  let transition ← ask (I := engineInterface) (.materializeEvents current runId payloads)
  lift transition

/-- Validate inputs and boundaries, then persist the definition and initial ready events. -/
def createRun (workflow : WorkflowDefinition) (create : CreateRunOptions) :
    EngineM σ RunState := do
  let negotiation ← negotiate options workflow create
  let inputs := create.inputs.getD []
  lift (validateInputs options workflow inputs)
  let runId ← chooseRunId create
  let (createdEvents, created) ← proposed none runId [.runCreated (runId ++ ":root")
    workflow.metadata.id workflow.metadata.version workflow.nodeOrder inputs]
  let initial := (negotiation.map RunEventPayload.runtimeNegotiated).toList ++
    (create.workspace.map RunEventPayload.workspaceAssigned).toList ++
    (findExecutableNodes workflow created).map fun nodeId =>
      .nodeReady nodeId .dependenciesSatisfied
  let (initialEvents, initialized) ← proposed (some created) runId initial
  let stored ← ask (I := engineInterface)
    (.create runId { workflow, events := createdEvents ++ initialEvents })
  lift stored
  pure initialized

/-- Schedule, execute and finish the next attempt of a ready node. -/
def tickNode (runId : String) (workflow : WorkflowDefinition) (initialState : RunState)
    (nodeId : String) : EngineM σ RunState := do
  let missing : Failure := .error ("Workflow node " ++ nodeId ++ " is missing")
  let node ← lift (requireSome (workflow.node? nodeId) missing)
  let nodeState ← lift (requireSome (initialState.node? nodeId) missing)
  let attempt := nodeState.attempts.length + 1
  let state ← commit runId initialState [
    .attemptScheduled nodeId attempt
      (if runsCommand options node then "command" else options.runtimeId),
    .attemptStarted nodeId attempt]
  let workspace := state.workspace.getD (.memory (runId ++ ":memory"))
  let context ← lift (buildContext { workflow, state, nodeId, attempt, workspace })
  let request := executionRequest state nodeId node attempt context
  let executed ← executeAttempt options request node state
  finishAttempt options request workflow node executed

/-- Schedule and execute one ready attempt. -/
def tick (runId : String) : EngineM σ RunState := do
  let run ← requireRun runId
  let initialState ← lift (replayRun run.events)
  if initialState.status != .running then pure initialState
  else match (findReadyNodes run.workflow initialState).head? with
    | none => pure initialState
    | some nodeId => tickNode options runId run.workflow initialState nodeId

/-- Advance ready work until the run stops progressing, for at most `ticks` ticks. -/
def advance (runId : String) : Nat → RunState → EngineM σ RunState
  | ticks, state =>
    if state.status != .running then pure state else do
      let run ← requireRun runId
      if (findReadyNodes run.workflow state).isEmpty then
        throw (.error ("Run " ++ runId ++ " is running but has no ready node"))
      else match ticks with
        | 0 => cut
        | ticks + 1 => do
          let state ← tick options runId
          advance runId ticks state

/-- Advance the run to its end; `resume` is the same. -/
def runToCompletion (runId : String) (ticks : Nat) : EngineM σ RunState := do
  let state ← requireState runId
  advance options runId ticks state

/-- Create a run and execute it until it finishes or stops. -/
def start (workflow : WorkflowDefinition) (create : CreateRunOptions) (ticks : Nat) :
    EngineM σ RunState := do
  let state ← createRun options workflow create
  runToCompletion options state.runId ticks

end runs
end WorkflowEngine
end Anastom
