import Anastom.ExecutionHost.ExecuteCommand
import Anastom.ExecutionHost.PrepareExecution

/-! The frames of an execution: the launch frame of its supervisor, its launch input, and
what its runtime host emits. -/
namespace Anastom
open JsonValue

/-- Checked-in hidden runtime-host executable. -/
structure RuntimeHostCommand where
  executable : String
  args : List String
  deriving DecidableEq, Repr

def RuntimeHostCommand.toJson (command : RuntimeHostCommand) : JsonValue :=
  .object [("executable", .string command.executable), ("args", strings command.args)]

/-- The frame that a coordinator writes to its supervisor. -/
def supervisorLaunch (prepare : PrepareExecution) (runtimeHost : RuntimeHostCommand) : JsonValue :=
  .object [("version", .string executionProtocolVersion), ("prepare", prepare.toJson),
    ("runtimeHost", runtimeHost.toJson)]

/-- Encode one canonical length-prefixed JSON frame under a byte limit: its payload. -/
def encodeFrame (value : JsonValue) (maxBytes : Nat) : Except Failure String := do
  require (decide (1 ≤ Json.byteLength value ∧ Json.byteLength value ≤ maxBytes))
    (.rangeError "Protocol frame exceeds its byte limit")
  pure (Json.canonicalJson value)

/-- What an execution does: the observations and the result of a runtime, or what a command
writes to its pipes and how it closes. -/
inductive Work : LaunchInput → Type where
  | runtime {descriptor : RuntimeDescriptor} {request : ExecutionRequest}
      (events : List RuntimeEvent) (result : ExecutionResult) : Work (.runtime descriptor request)
  | command {definition : CommandDefinition} {workspace : WorkspaceRef}
      (stdoutChunks stderrChunks : List (List UInt8)) (close : ChildClose) :
      Work (.command definition workspace)

/-- The outputs of a runtime host, in order. -/
def outputs : {input : LaunchInput} → Work input → List RuntimeHostOutput
  | .runtime .., .runtime events result =>
    events.map RuntimeHostOutput.event ++ [.runtimeResult result]
  | .command definition _, .command stdoutChunks stderrChunks close =>
    let result := executeCommand definition stdoutChunks stderrChunks close
    [.event .started,
      .event (.completed (if result.output.passed then .succeeded else .failed)),
      .commandResult (commandExecutionToRecord result)]

/-- Writes one output to the supervisor. -/
def emit (output : RuntimeHostOutput) : Action (List RuntimeHostOutput) Unit := do
  .lift (assertRuntimeHostOutput output.toJson)
  let _ ← .lift (encodeFrame output.toJson executionLaunchFrameMaxBytes)
  .modify (· ++ [output])

def emitAll : List RuntimeHostOutput → Action (List RuntimeHostOutput) Unit
  | [] => pure ()
  | output :: rest => do
    emit output
    emitAll rest

/-- Run the hidden isolated execution process: what it wrote, and the code it exits with. -/
def runExecutionRuntimeHost {input : LaunchInput} (work : Work input) :
    List RuntimeHostOutput × Option Int :=
  match emitAll (outputs work) [] with
  | (.ok _, written) => (written, some 0)
  | (.error _, written) => (written, some 1)

end Anastom
