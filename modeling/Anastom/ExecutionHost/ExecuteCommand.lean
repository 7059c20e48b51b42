import Anastom.Data.Doubles
import Anastom.ExecutionHost.RecordReading
import Mathlib.Data.List.Induction

/-! The command that a runtime host executes: what it keeps of the output, and the report
it makes when the child process has closed. -/
namespace Anastom

/-- The signals that a child process can be reported to have died of. -/
def signalNames : List String :=
  ["SIGABRT", "SIGALRM", "SIGBUS", "SIGCHLD", "SIGCONT", "SIGFPE", "SIGHUP", "SIGILL", "SIGINT",
    "SIGIO", "SIGIOT", "SIGKILL", "SIGPIPE", "SIGPOLL", "SIGPROF", "SIGPWR", "SIGQUIT", "SIGSEGV",
    "SIGSTKFLT", "SIGSTOP", "SIGSYS", "SIGTERM", "SIGTRAP", "SIGTSTP", "SIGTTIN", "SIGTTOU",
    "SIGUNUSED", "SIGURG", "SIGUSR1", "SIGUSR2", "SIGVTALRM", "SIGWINCH", "SIGXCPU", "SIGXFSZ",
    "SIGBREAK", "SIGLOST", "SIGINFO"]

/-- How a child process ended: its `close` event, the error that kept it from starting, the
cancellation and the timeout that came before it, and the time it took. -/
structure ChildClose where
  exitCode : Option Int
  signal : Option String
  failedToStart : Bool
  cancelled : Bool
  timedOut : Bool
  durationMs : JsonNumber
  exitStatus : ∀ code ∈ exitCode, code.natAbs ≤ maxSafeInteger
  named : ∀ name ∈ signal, name ∈ signalNames
  timeoutCancels : timedOut = true → cancelled = true
  elapsed : Json.Double durationMs ∧ durationMs.negative = false

/-- What a command writes to one of its pipes, chunk by chunk. -/
structure KeptOutput where
  bytes : Nat := 0
  kept : List UInt8 := []

/-- The `data` listener of a pipe. -/
def KeptOutput.onData (maxOutputBytes : Nat) (output : KeptOutput) (chunk : List UInt8) :
    KeptOutput where
  bytes := Doubles.add output.bytes chunk.length
  kept := output.kept ++ chunk.take (maxOutputBytes - output.kept.length)

def keepOutput (maxOutputBytes : Nat) (chunks : List (List UInt8)) : KeptOutput :=
  chunks.foldl (KeptOutput.onData maxOutputBytes) {}

/-- A number in a template string. -/
def exitCodeText : Option Int → String
  | none => "null"
  | some code => toString code

def ChildClose.passed (close : ChildClose) : Bool :=
  !close.cancelled && !close.timedOut && !close.failedToStart && close.exitCode == some 0

def ChildClose.message (close : ChildClose) : String :=
  if close.timedOut then "Command exceeded its duration limit"
  else if close.cancelled then "Command cancelled by execution supervisor"
  else if close.failedToStart then "Command could not start"
  else "Command exited with code " ++ exitCodeText close.exitCode

def executeCommand (command : CommandDefinition) (stdoutChunks stderrChunks : List (List UInt8))
    (close : ChildClose) : CommandExecution :=
  let stdout := keepOutput command.maxOutputBytes stdoutChunks
  let stderr := keepOutput command.maxOutputBytes stderrChunks
  { output :=
      { passed := close.passed
        exitCode := close.exitCode
        signal := close.signal
        durationMs := close.durationMs
        stdoutBytes := stdout.bytes
        stderrBytes := stderr.bytes
        stdoutTruncated := decide (stdout.bytes > stdout.kept.length)
        stderrTruncated := decide (stderr.bytes > stderr.kept.length) }
    stdout := stdout.kept
    stderr := stderr.kept
    failure :=
      if close.passed then none
      else some ⟨if close.timedOut then .budgetExhausted else .tool, close.message⟩ }

theorem keepOutput_append (maxOutputBytes : Nat) (chunks : List (List UInt8))
    (chunk : List UInt8) : keepOutput maxOutputBytes (chunks ++ [chunk]) =
      (keepOutput maxOutputBytes chunks).onData maxOutputBytes chunk := by
  rw [keepOutput, List.foldl_append]
  rfl

/-- A pipe's first bytes are kept, up to the admitted count. -/
theorem keepOutput_kept (maxOutputBytes : Nat) (chunks : List (List UInt8)) :
    (keepOutput maxOutputBytes chunks).kept = chunks.flatten.take maxOutputBytes := by
  induction chunks using List.reverseRecOn with
  | nil => simp [keepOutput]
  | append_singleton chunks chunk ih =>
    have room : maxOutputBytes - (chunks.flatten.take maxOutputBytes).length =
        maxOutputBytes - chunks.flatten.length := by
      rw [List.length_take]
      omega
    rw [keepOutput_append, KeptOutput.onData, ih, List.flatten_append, List.flatten_singleton,
      List.take_append, room]

theorem keepOutput_length (maxOutputBytes : Nat) (chunks : List (List UInt8)) :
    (keepOutput maxOutputBytes chunks).kept.length =
      min maxOutputBytes (chunks.map List.length).sum := by
  rw [keepOutput_kept, List.length_take, List.length_flatten]

theorem executeCommand_stdout (command : CommandDefinition)
    (stdoutChunks stderrChunks : List (List UInt8)) (close : ChildClose) :
    (executeCommand command stdoutChunks stderrChunks close).stdout.length =
      min command.maxOutputBytes (stdoutChunks.map List.length).sum :=
  keepOutput_length command.maxOutputBytes stdoutChunks

theorem executeCommand_stderr (command : CommandDefinition)
    (stdoutChunks stderrChunks : List (List UInt8)) (close : ChildClose) :
    (executeCommand command stdoutChunks stderrChunks close).stderr.length =
      min command.maxOutputBytes (stderrChunks.map List.length).sum :=
  keepOutput_length command.maxOutputBytes stderrChunks

theorem keepOutput_counted (maxOutputBytes : Nat) (chunks : List (List UInt8))
    (chunk : List UInt8) : (keepOutput maxOutputBytes (chunks ++ [chunk])).bytes =
      Doubles.add (keepOutput maxOutputBytes chunks).bytes chunk.length := by
  rw [keepOutput_append]
  rfl

/-- The count of bytes is exact while it is below 2^53. -/
theorem keepOutput_exact (maxOutputBytes : Nat) (chunks : List (List UInt8))
    (safe : (chunks.map List.length).sum ≤ maxSafeInteger) :
    (keepOutput maxOutputBytes chunks).bytes = (chunks.map List.length).sum := by
  induction chunks using List.reverseRecOn with
  | nil => rfl
  | append_singleton chunks chunk ih =>
    rw [List.map_append, List.sum_append, List.map_singleton, List.sum_singleton] at safe ⊢
    rw [keepOutput_counted, ih (Nat.le_trans (Nat.le_add_right _ _) safe)]
    exact Doubles.add_exact (Nat.lt_of_le_of_lt safe (by rw [maxSafeInteger]; decide))

/-- A count that has left the safe integers does not come back. -/
theorem keepOutput_bytes (maxOutputBytes : Nat) (chunks : List (List UInt8)) :
    (keepOutput maxOutputBytes chunks).bytes ≤ maxSafeInteger ↔
      (chunks.map List.length).sum ≤ maxSafeInteger := by
  have limit : maxSafeInteger = 2 ^ 53 - 1 := by decide
  constructor
  · intro counted
    induction chunks using List.reverseRecOn with
    | nil => exact Nat.zero_le _
    | append_singleton chunks chunk ih =>
      rw [keepOutput_counted] at counted
      have fits := (Doubles.add_lt_iff (a := (keepOutput maxOutputBytes chunks).bytes)
        (b := chunk.length)).mp (by omega)
      have earlier := ih (by omega)
      rw [keepOutput_exact _ _ earlier] at fits
      rw [List.map_append, List.sum_append, List.map_singleton, List.sum_singleton]
      omega
  · intro safe
    rwa [keepOutput_exact _ _ safe]

/-- The report of a command by how its child process closed and what it wrote in total. -/
def ChildClose.report (close : ChildClose) (maxOutputBytes stdoutBytes stderrBytes : Nat) :
    CommandReport where
  passed := close.passed
  exitCode := close.exitCode
  signal := close.signal
  durationMs := close.durationMs
  stdoutBytes
  stderrBytes
  stdoutTruncated := decide (maxOutputBytes < stdoutBytes)
  stderrTruncated := decide (maxOutputBytes < stderrBytes)

def ChildClose.failure (close : ChildClose) : Option ExecutionFailure :=
  if close.passed then none
  else some ⟨if close.timedOut then .budgetExhausted else .tool, close.message⟩

/-- What is reported of a command whose counts are exact. -/
theorem executeCommand_report {command : CommandDefinition}
    {stdoutChunks stderrChunks : List (List UInt8)} {close : ChildClose}
    (stdout : (stdoutChunks.map List.length).sum ≤ maxSafeInteger)
    (stderr : (stderrChunks.map List.length).sum ≤ maxSafeInteger) :
    (executeCommand command stdoutChunks stderrChunks close).output =
        close.report command.maxOutputBytes (stdoutChunks.map List.length).sum
          (stderrChunks.map List.length).sum ∧
      (executeCommand command stdoutChunks stderrChunks close).failure = close.failure := by
  have truncated {maxOutputBytes total : Nat} : decide (total > min maxOutputBytes total) =
      decide (maxOutputBytes < total) := by
    rw [decide_eq_decide]
    omega
  refine ⟨?_, rfl⟩
  rw [executeCommand, ChildClose.report, keepOutput_exact _ _ stdout, keepOutput_exact _ _ stderr,
    keepOutput_length, keepOutput_length, truncated, truncated]

/-- A report that a closed child process leads to is readable exactly when its byte counts
are safe integers. -/
theorem ChildClose.readable (close : ChildClose) {report : CommandReport}
    (exitCode : report.exitCode = close.exitCode) (durationMs : report.durationMs = close.durationMs) :
    report.readable = (nonnegative report.stdoutBytes && nonnegative report.stderrBytes) := by
  have exitStatus : close.exitCode.all (fun code => decide (code.natAbs ≤ maxSafeInteger)) =
      true := by
    cases known : close.exitCode with
    | none => rfl
    | some code => exact decide_eq_true (close.exitStatus code known)
  simp only [CommandReport.readable, CommandReport.valid, exitCode, durationMs, close.elapsed.2,
    Bool.not_false, Bool.true_or, Bool.true_and, exitStatus, Bool.and_true]

end Anastom
