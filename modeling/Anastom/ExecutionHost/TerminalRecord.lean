import Anastom.ExecutionHost.EventBounds
import Anastom.ExecutionHost.ExecuteCommand

/-! The terminal record of a supervisor: how it is bounded before it is written, and what
is read back from it. -/
namespace Anastom

/-- The bytes of a private record, refused past their limit. -/
def boundedBytes (value : JsonValue) (maxBytes : Nat) : Except Failure String := do
  require (decide (Json.byteLength value ≤ maxBytes)) (.error "Private record exceeds its byte limit")
  pure (Json.canonicalJson value)

/-- Read, decode, and validate a bounded record, from the value that was written to it. -/
def readRecord (written : JsonValue) (maxBytes : Nat) (validate : JsonValue → Except Failure Unit) :
    Except Failure JsonValue := do
  require (decide (Json.byteLength written ≤ maxBytes)) (.error "Private record exceeds its byte limit")
  validate written.reread
  pure written.reread

def failureResult : ExecutionResult :=
  .failed ⟨.runtimeUnavailable, "Execution host could not confirm worker cleanup"⟩

def emptyCommandFailure (message : String) : CommandExecution where
  output :=
    { passed := false
      exitCode := none
      signal := none
      durationMs := JsonNumber.ofNat 0
      stdoutBytes := 0
      stderrBytes := 0
      stdoutTruncated := false
      stderrTruncated := false }
  stdout := []
  stderr := []
  failure := some ⟨.runtimeUnavailable, message⟩

def terminalOutcome (terminationRequested : Bool) (result : TerminalResult) : ResultStatus :=
  if terminationRequested then .cancelled
  else match result with
    | .command value => if value.output.passed then .succeeded else .failed
    | .runtime value => value.status

/-- The typed failure in place of a result that does not fit. -/
def compactResult : TerminalResult → TerminalResult
  | .runtime _ => .runtime (.failed ⟨.schemaViolation,
      "Normalized execution result exceeded the terminal evidence limit"⟩)
  | .command value => .command (commandExecutionToRecord
      { emptyCommandFailure "Command result exceeded the terminal evidence limit" with
        output :=
          { value.output with
            passed := false
            stdoutTruncated := decide (value.output.stdoutBytes > 0)
            stderrTruncated := decide (value.output.stderrBytes > 0) }
        failure := some ⟨.schemaViolation, "Command result exceeded the terminal evidence limit"⟩ })

def compactTerminal (terminationRequested : Bool) (value : ExecutionTerminalRecord) :
    ExecutionTerminalRecord :=
  { value with
    outcome := terminalOutcome terminationRequested (compactResult value.result)
    events := value.events.filter (!·.isLog)
    result := compactResult value.result }

def ExecutionTerminalRecord.fits (record : ExecutionTerminalRecord) : Bool :=
  decide (Json.byteLength record.toJson ≤ executionTerminalMaxBytes)

def boundedTerminal (terminationRequested : Bool) (value : ExecutionTerminalRecord) :
    ExecutionTerminalRecord :=
  if value.fits then value
  else
    let compact := compactTerminal terminationRequested value
    if compact.fits then compact else { compact with events := [] }

/-- The record with everything that is retained. -/
def fullTerminal (plan : ExecutionPlanRef) (terminationRequested : Bool)
    (events : List RuntimeEvent) (result : TerminalResult) (cleanup : CleanupOutcome) :
    ExecutionTerminalRecord where
  executionId := plan.executionId
  generation := plan.generation
  outcome := terminalOutcome terminationRequested result
  events := events
  result := result
  cleanup := cleanup

/-- The record that a supervisor writes when it publishes a terminal result. -/
def publishTerminal (plan : ExecutionPlanRef) (terminationRequested : Bool)
    (result : TerminalResult) (cleanup : CleanupOutcome) :
    Action RetainedEvents ExecutionTerminalRecord := do
  RetainedEvents.flushDroppedLogs
  let queue ← Action.get
  let value := boundedTerminal terminationRequested
    (fullTerminal plan terminationRequested queue.observed result cleanup)
  let _ ← Action.lift (boundedBytes value.toJson executionTerminalMaxBytes)
  pure value

end Anastom
