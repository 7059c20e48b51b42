import Anastom.ExecutionHost.ExecuteCommand
import Anastom.ExecutionHost.PrepareExecution

/-! The capture of a command's output by the two executors: a counter of all bytes, a counter
of the bytes kept and the chunks kept for each pipe, whatever the order in which the chunks
of the two pipes arrive. -/
namespace Anastom

inductive Pipe where
  | stdout
  | stderr
  deriving DecidableEq, Repr

/-- The variables of an executor that belong to one pipe. -/
structure PipeCapture where
  bytes : Nat := 0
  kept : Nat := 0
  chunks : List (List UInt8) := []

/-- The `data` listener of a pipe. -/
def PipeCapture.onData (maxOutputBytes : Nat) (capture : PipeCapture) (chunk : List UInt8) :
    PipeCapture :=
  let kept := chunk.take (maxOutputBytes - capture.kept)
  { bytes := Doubles.add capture.bytes chunk.length
    kept := Doubles.add capture.kept kept.length
    chunks := if kept.length > 0 then capture.chunks ++ [kept] else capture.chunks }

structure OutputCapture where
  stdout : PipeCapture := {}
  stderr : PipeCapture := {}

def OutputCapture.onData (maxOutputBytes : Nat) (capture : OutputCapture) :
    Pipe × List UInt8 → OutputCapture
  | (.stdout, chunk) => { capture with stdout := capture.stdout.onData maxOutputBytes chunk }
  | (.stderr, chunk) => { capture with stderr := capture.stderr.onData maxOutputBytes chunk }

/-- What the listeners have when the child process has closed. -/
def captureOutput (maxOutputBytes : Nat) (events : List (Pipe × List UInt8)) : OutputCapture :=
  events.foldl (OutputCapture.onData maxOutputBytes) {}

/-- The value that an executor resolves to. -/
def OutputCapture.execution (capture : OutputCapture) (passed : Bool) (exitCode : Option Int)
    (signal : Option String) (durationMs : JsonNumber) (failure : ExecutionFailure) :
    CommandExecution where
  output :=
    { passed, exitCode, signal, durationMs
      stdoutBytes := capture.stdout.bytes
      stderrBytes := capture.stderr.bytes
      stdoutTruncated := decide (capture.stdout.bytes > capture.stdout.kept)
      stderrTruncated := decide (capture.stderr.bytes > capture.stderr.kept) }
  stdout := capture.stdout.chunks.flatten
  stderr := capture.stderr.chunks.flatten
  failure := if passed then none else some failure

/-- What `executeCommand` of the runtime host resolves to. -/
def ChildClose.execution (close : ChildClose) (capture : OutputCapture) : CommandExecution :=
  capture.execution close.passed close.exitCode close.signal close.durationMs
    ⟨if close.timedOut then .budgetExhausted else .tool, close.message⟩

/-- How the child process of the engine's executor ended. -/
structure LocalClose where
  exitCode : Option Int
  signal : Option String
  failedToStart : Bool
  timedOut : Bool
  durationMs : JsonNumber
  exitStatus : ∀ code ∈ exitCode, code.natAbs ≤ maxSafeInteger
  named : ∀ name ∈ signal, name ∈ signalNames
  elapsed : Json.Double durationMs ∧ durationMs.negative = false

namespace LocalClose

def passed (close : LocalClose) : Bool :=
  !close.timedOut && !close.failedToStart && close.exitCode == some 0

def message (close : LocalClose) : String :=
  if close.timedOut then "Verification command exceeded its duration limit"
  else if close.failedToStart then "Verification command could not start or terminate"
  else "Verification command exited with code " ++ exitCodeText close.exitCode

def execution (close : LocalClose) (capture : OutputCapture) : CommandExecution :=
  capture.execution close.passed close.exitCode close.signal close.durationMs
    ⟨if close.timedOut then .budgetExhausted else .tool, close.message⟩

end LocalClose

/-- Run exact argv without a shell, confine cwd, bound output, and terminate overdue processes.
`cwd` is what the path policy makes of the working directory. -/
def LocalCommandExecutor.execute (command : CommandDefinition) (workspace : WorkspaceRef)
    (cwd : Except Failure Unit) (events : List (Pipe × List UInt8)) (close : LocalClose) :
    Except Failure CommandExecution := do
  require (workspace.mode != .memory) (.error "Commands require a filesystem workspace")
  require (!command.argv.isEmpty && command.argv.all validString)
    (.error "Command requires a nonempty argument vector")
  require (!Definition.isAbsolute command.cwd) (.error "Command cwd must be workspace-relative")
  cwd
  require (decide (1 ≤ command.maxDurationMs ∧ command.maxDurationMs ≤ 2147483647) &&
    decide (1 ≤ command.maxOutputBytes ∧ command.maxOutputBytes ≤ 16777216))
    (.error "Invalid command limits")
  pure (close.execution (captureOutput command.maxOutputBytes events))

/-- The chunks that arrive on a pipe, in their order. -/
def chunksOf (pipe : Pipe) (events : List (Pipe × List UInt8)) : List (List UInt8) :=
  events.filterMap fun event => if event.1 = pipe then some event.2 else none

/-- The bytes that are written to a pipe. -/
def streamOf (pipe : Pipe) (events : List (Pipe × List UInt8)) : List UInt8 :=
  (chunksOf pipe events).flatten

variable {maxOutputBytes : Nat}

theorem chunksOf_concat (pipe : Pipe) (events : List (Pipe × List UInt8))
    (event : Pipe × List UInt8) : chunksOf pipe (events ++ [event]) =
      chunksOf pipe events ++ if event.1 = pipe then [event.2] else [] := by
  rw [chunksOf, List.filterMap_append, ← chunksOf, List.filterMap_cons]
  split <;> simp_all

theorem captureOutput_pipes (maxOutputBytes : Nat) (events : List (Pipe × List UInt8)) :
    captureOutput maxOutputBytes events =
      ⟨(chunksOf .stdout events).foldl (PipeCapture.onData maxOutputBytes) {},
        (chunksOf .stderr events).foldl (PipeCapture.onData maxOutputBytes) {}⟩ := by
  induction events using List.reverseRecOn with
  | nil => rfl
  | append_singleton events event ih =>
    obtain ⟨pipe, chunk⟩ := event
    rw [captureOutput, List.foldl_concat, ← captureOutput, ih, chunksOf_concat, chunksOf_concat,
      List.foldl_append, List.foldl_append]
    cases pipe <;> rfl

/-- The counters and the chunks of a pipe agree with its stream, where the limit is a safe
integer. -/
theorem onData_keepOutput (limit : maxOutputBytes ≤ maxSafeInteger)
    (chunks : List (List UInt8)) :
    (chunks.foldl (PipeCapture.onData maxOutputBytes) {}).bytes =
      (keepOutput maxOutputBytes chunks).bytes ∧
    (chunks.foldl (PipeCapture.onData maxOutputBytes) {}).kept =
      (keepOutput maxOutputBytes chunks).kept.length ∧
    (chunks.foldl (PipeCapture.onData maxOutputBytes) {}).chunks.flatten =
      (keepOutput maxOutputBytes chunks).kept := by
  induction chunks using List.reverseRecOn with
  | nil => exact ⟨rfl, rfl, rfl⟩
  | append_singleton chunks chunk ih =>
    obtain ⟨bytes, kept, held⟩ := ih
    have next : (keepOutput maxOutputBytes (chunks ++ [chunk])).kept =
        (keepOutput maxOutputBytes chunks).kept ++
          chunk.take (maxOutputBytes - (keepOutput maxOutputBytes chunks).kept.length) := by
      rw [keepOutput_append]
      rfl
    have bounded : (keepOutput maxOutputBytes chunks).kept.length +
        (chunk.take (maxOutputBytes - (keepOutput maxOutputBytes chunks).kept.length)).length <
        2 ^ 53 := by
      have whole := keepOutput_length maxOutputBytes (chunks ++ [chunk])
      rw [next, List.length_append] at whole
      rw [whole]
      exact Nat.lt_of_le_of_lt (Nat.min_le_left _ _)
        (Nat.lt_of_le_of_lt limit (by rw [maxSafeInteger]; decide))
    rw [List.foldl_concat, next]
    refine ⟨?_, ?_, ?_⟩
    · rw [keepOutput_append, PipeCapture.onData, KeptOutput.onData, bytes]
    · rw [PipeCapture.onData, kept, List.length_append]
      exact Doubles.add_exact bounded
    · rw [PipeCapture.onData, kept]
      simp only
      split
      case isTrue => rw [List.flatten_append, List.flatten_singleton, held]
      case isFalse nothing =>
        rw [held, List.eq_nil_of_length_eq_zero (Nat.eq_zero_of_not_pos nothing), List.append_nil]

/-- The runtime host's executor, as its listeners see the two pipes. -/
theorem executeCommand_capture {command : CommandDefinition}
    (limit : command.maxOutputBytes ≤ maxSafeInteger) (events : List (Pipe × List UInt8))
    (close : ChildClose) :
    executeCommand command (chunksOf .stdout events) (chunksOf .stderr events) close =
      close.execution (captureOutput command.maxOutputBytes events) := by
  obtain ⟨outBytes, outKept, outHeld⟩ := onData_keepOutput limit (chunksOf .stdout events)
  obtain ⟨errBytes, errKept, errHeld⟩ := onData_keepOutput limit (chunksOf .stderr events)
  rw [captureOutput_pipes, ChildClose.execution, OutputCapture.execution, executeCommand, outBytes,
    outKept, outHeld, errBytes, errKept, errHeld]

/-- A counter of a total: exact up to the largest safe integer, and beyond it above. -/
structure Counts (reported total : Nat) : Prop where
  exact : total ≤ maxSafeInteger → reported = total
  safe : reported ≤ maxSafeInteger ↔ total ≤ maxSafeInteger

/-- An execution has the first bytes of both streams, their totals, and whether they were
cut. -/
structure Captures (maxOutputBytes : Nat) (out err : List UInt8) (execution : CommandExecution) :
    Prop where
  stdout : execution.stdout = out.take maxOutputBytes
  stderr : execution.stderr = err.take maxOutputBytes
  stdoutBytes : Counts execution.output.stdoutBytes out.length
  stderrBytes : Counts execution.output.stderrBytes err.length
  stdoutTruncated : execution.output.stdoutTruncated = decide (out.length > maxOutputBytes)
  stderrTruncated : execution.output.stderrTruncated = decide (err.length > maxOutputBytes)

theorem keepOutput_counts (maxOutputBytes : Nat) (chunks : List (List UInt8)) :
    Counts (keepOutput maxOutputBytes chunks).bytes chunks.flatten.length := by
  rw [List.length_flatten]
  exact ⟨keepOutput_exact maxOutputBytes chunks, keepOutput_bytes maxOutputBytes chunks⟩

/-- A total beyond the safe integers is counted as one beyond them, and so beyond the limit. -/
theorem keepOutput_truncated (limit : maxOutputBytes ≤ maxSafeInteger)
    (chunks : List (List UInt8)) :
    decide ((keepOutput maxOutputBytes chunks).bytes >
      (keepOutput maxOutputBytes chunks).kept.length) =
    decide (chunks.flatten.length > maxOutputBytes) := by
  have counts := keepOutput_counts maxOutputBytes chunks
  rw [keepOutput_length, ← List.length_flatten]
  by_cases small : chunks.flatten.length ≤ maxSafeInteger
  · rw [counts.exact small, decide_eq_decide]
    omega
  · have large : ¬(keepOutput maxOutputBytes chunks).bytes ≤ maxSafeInteger :=
      fun safe => small (counts.safe.mp safe)
    rw [decide_eq_decide]
    omega

theorem captures_execution (limit : maxOutputBytes ≤ maxSafeInteger)
    (events : List (Pipe × List UInt8)) (passed : Bool) (exitCode : Option Int)
    (signal : Option String) (durationMs : JsonNumber) (failure : ExecutionFailure) :
    Captures maxOutputBytes (streamOf .stdout events) (streamOf .stderr events)
      ((captureOutput maxOutputBytes events).execution passed exitCode signal durationMs
        failure) := by
  obtain ⟨outBytes, outKept, outHeld⟩ := onData_keepOutput limit (chunksOf .stdout events)
  obtain ⟨errBytes, errKept, errHeld⟩ := onData_keepOutput limit (chunksOf .stderr events)
  rw [captureOutput_pipes, OutputCapture.execution, outBytes, outKept, outHeld, errBytes, errKept,
    errHeld]
  exact ⟨keepOutput_kept .., keepOutput_kept .., keepOutput_counts .., keepOutput_counts ..,
    keepOutput_truncated limit _, keepOutput_truncated limit _⟩

end Anastom
