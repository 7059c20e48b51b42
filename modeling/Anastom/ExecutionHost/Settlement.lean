import Anastom.ExecutionHost.RuntimeHost
import Anastom.ExecutionHost.TerminalRecord

/-! How a supervisor settles an execution: it reads what the runtime host wrote, waits for
its exit, looks whether its process group is empty, and publishes the terminal record. -/
namespace Anastom

/-- Takes one frame of the runtime host. -/
def receive : RuntimeHostOutput → Option TerminalResult →
    Action RetainedEvents (Option TerminalResult)
  | .event value, result => do
    RetainedEvents.appendEvent value
    pure result
  | .runtimeResult value, none => pure (some (.runtime value))
  | .commandResult value, none => pure (some (.command value))
  | _, some _ => .lift (.error (.error "Runtime host emitted more than one terminal result"))

/-- The loop over the frames, each of them checked as it is read back. -/
def receiveAll : List RuntimeHostOutput → Option TerminalResult →
    Action RetainedEvents (Option TerminalResult)
  | [], result => pure result
  | output :: rest, result => do
    .lift (assertRuntimeHostOutput output.toJson.reread)
    let next ← receive output result
    receiveAll rest next

/-- The result of an execution whose own is not known. -/
def fallbackResult (message : String) : ExecutionKind → TerminalResult
  | .runtime => .runtime failureResult
  | .command => .command (commandExecutionToRecord (emptyCommandFailure message))

/-- The result that was received in a valid stream of a process that exited with 0. -/
def settledResult (received : Except Failure (Option TerminalResult)) (exitCode : Option Int) :
    Option TerminalResult :=
  match received with
  | .ok result => if exitCode = some 0 then result else none
  | .error _ => none

def settleExecution (plan : ExecutionPlanRef) (terminationRequested : Bool)
    (frames : List RuntimeHostOutput) (exitCode : Option Int) (groupEmpty : Bool) :
    Action RetainedEvents ExecutionTerminalRecord := fun queue =>
  let received := receiveAll frames none queue
  let result := settledResult received.1 exitCode
  let cleanup := if result.isSome && groupEmpty then .confirmed else .unknown
  publishTerminal plan terminationRequested
    (result.getD (fallbackResult "Command host cleanup is unknown" plan.kind)) cleanup received.2

end Anastom
