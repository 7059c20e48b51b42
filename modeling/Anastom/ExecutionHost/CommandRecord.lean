import Anastom.Engine.JsonRoundTrip
import Anastom.ExecutionHost.CommandCapture

/-! The private record of a command execution, read back: what was written is read back as it
was. -/
namespace Anastom
open JsonValue

def CommandReport.ofJson? (value : JsonValue) : Option CommandReport := do
  let passed ← (value.get? "passed").bind asBool?
  let exitCode ← (value.get? "exitCode").bind (asNullable? asInt?)
  let signal ← (value.get? "signal").bind (asNullable? asString?)
  let durationMs ← (value.get? "durationMs").bind asNumber?
  let stdoutBytes ← (value.get? "stdoutBytes").bind asInt?
  let stderrBytes ← (value.get? "stderrBytes").bind asInt?
  let stdoutTruncated ← (value.get? "stdoutTruncated").bind asBool?
  let stderrTruncated ← (value.get? "stderrTruncated").bind asBool?
  some
    { passed, exitCode, signal, durationMs, stdoutTruncated, stderrTruncated
      stdoutBytes := stdoutBytes.toNat
      stderrBytes := stderrBytes.toNat }

def ExecutionFailure.ofJson? (value : JsonValue) : Option ExecutionFailure := do
  let text ← (value.get? "category").bind asString?
  let category ← failureCategories.find? (·.text == text)
  let message ← (value.get? "message").bind asString?
  some { category, message }

/-- The fields of a record that was checked. -/
def CommandExecution.ofJson? (value : JsonValue) : Option CommandExecution := do
  let output ← (value.get? "output").bind CommandReport.ofJson?
  let stdout ← (value.get? "stdout").bind asString?
  let stderr ← (value.get? "stderr").bind asString?
  let failure ← readField ExecutionFailure.ofJson? (value.get? "failure")
  some { output, failure, stdout := Base64.decode stdout, stderr := Base64.decode stderr }

/-- Reconstruct bounded command evidence from its validated private record. -/
def commandExecutionFromRecord (value : JsonValue) : Except Failure CommandExecution := do
  assertSerializedCommandExecution value
  match CommandExecution.ofJson? value with
  | some execution => .ok execution
  | none => .error (.typeError "Invalid serialized command execution")

section Readable
variable {value : JsonValue} {found : Option JsonValue} {α : Type}

theorem assertSerializedCommandExecution_iff : assertSerializedCommandExecution value = .ok () ↔
    (value.isRecord && value.hasOnlyKeys ["output", "stderr", "stdout"] ["failure"] &&
      (value.get? "stdout").any isString && (value.get? "stderr").any isString) = true ∧
    assertCommandReport ((value.get? "output").getD .null) = .ok () ∧
    ifPresent (value.get? "failure") assertFailure = .ok () ∧
    (value.get? "stdout").any canonicalBase64 = true ∧
    (value.get? "stderr").any canonicalBase64 = true := by
  rw [assertSerializedCommandExecution, require_bind_ok, ← Bool.and_eq_true]
  refine and_congr_right fun _ => ?_
  simp only [bind_ok, require_ok]
  constructor
  · rintro ⟨⟨⟩, report, ⟨⟩, failure, encoded⟩
    exact ⟨report, failure, encoded⟩
  · rintro ⟨report, failure, encoded⟩
    exact ⟨(), report, (), failure, encoded⟩

end Readable

section RoundTrip
variable {execution : CommandExecution}

theorem toInt?_parsed_ofNat (n : Nat) : (JsonNumber.ofNat n).parsed.toInt? = some (n : Int) := by
  rw [JsonNumber.toInt?_parsed, JsonNumber.toInt?_ofNat]

theorem toInt?_parsed_ofInt (n : Int) : (JsonNumber.ofInt n).parsed.toInt? = some n := by
  rw [JsonNumber.toInt?_parsed, JsonNumber.toInt?_ofInt]

theorem ofJson?_report (report : CommandReport) : CommandReport.ofJson? report.toJson.reread =
    some { report with durationMs := report.durationMs.parsed } := by
  have exitCode : asNullable? asInt? ((report.exitCode.map fun code =>
      JsonValue.number (JsonNumber.ofInt code)).getD .null).reread = some report.exitCode := by
    cases report.exitCode with
    | none => rfl
    | some code => exact congrArg (Option.map some) (toInt?_parsed_ofInt code)
  have signal : asNullable? asString? ((report.signal.map JsonValue.string).getD .null).reread =
      some report.signal := by
    cases report.signal <;> rfl
  have count (n : Nat) : asInt? (nat n).reread = some (n : Int) := toInt?_parsed_ofNat n
  simp only [CommandReport.ofJson?, get?_reread]
  simp [CommandReport.toJson, get?, List.lookup_cons, exitCode, signal, count, reread, asBool?,
    asNumber?]

theorem ofJson?_failure (failure : ExecutionFailure) :
    ExecutionFailure.ofJson? failure.toJson.reread = some failure := by
  obtain ⟨category, message⟩ := failure
  have found : failureCategories.find? (·.text == category.text) = some category := by
    cases category <;> decide
  simp only [ExecutionFailure.ofJson?, get?_reread]
  simp [ExecutionFailure.toJson, get?, List.lookup_cons, reread, asString?, found]

/-- All but the sign of a zero duration, which the text of a number does not carry. -/
theorem ofJson?_execution (execution : CommandExecution) : CommandExecution.ofJson?
    (commandExecutionToRecord execution).toJson.reread = some
      { execution with
        output := { execution.output with durationMs := execution.output.durationMs.parsed } } := by
  obtain ⟨output, stdout, stderr, failure⟩ := execution
  have failed : readField ExecutionFailure.ofJson?
      (failure.map (reread ∘ ExecutionFailure.toJson)) = some failure := by
    cases failure with
    | none => rfl
    | some failure => exact congrArg (Option.map some) (ofJson?_failure failure)
  simp only [CommandExecution.ofJson?, get?_reread]
  simp [commandExecutionToRecord, SerializedCommandExecution.toJson, get?, List.lookup_cons,
    ofJson?_report, reread, asString?, Base64.decode_encode, failed]

theorem report_distinctKeys (report : CommandReport) : report.toJson.distinctKeys = true := by
  refine distinctKeys_object ["passed", "exitCode", "signal", "durationMs", "stdoutBytes",
    "stderrBytes", "stdoutTruncated", "stderrTruncated"] rfl (by decide) ?_
  cases report.exitCode <;> cases report.signal <;> rfl

theorem commandExecution_distinctKeys (execution : CommandExecution) :
    (commandExecutionToRecord execution).toJson.distinctKeys = true := by
  obtain ⟨output, stdout, stderr, failure⟩ := execution
  have report := report_distinctKeys output
  cases failure with
  | none =>
    refine distinctKeys_object ["output", "stdout", "stderr"] rfl (by decide) ?_
    exact Bool.and_eq_true_iff.mpr ⟨report, rfl⟩
  | some failure =>
    refine distinctKeys_object ["output", "stdout", "stderr", "failure"] rfl (by decide) ?_
    exact Bool.and_eq_true_iff.mpr ⟨report, rfl⟩

/-- The canonical text of a record, parsed and reconstructed. A record holds scalar strings,
counts and a double of milliseconds, so `Json.parse` reads its text as `JSON.parse` does. -/
def roundTrip (execution : CommandExecution) : Option (Except Failure CommandExecution) :=
  (Json.parse (Json.canonicalJson (commandExecutionToRecord execution).toJson)).map
    commandExecutionFromRecord

/-- An execution whose report is in range comes back as it was; no other comes back. -/
theorem roundTrip_readable (signed : execution.output.durationMs.negative = false) :
    roundTrip execution = some (.ok execution) ↔ execution.output.readable = true := by
  have plain : execution.output.durationMs.parsed = execution.output.durationMs := by
    rw [JsonNumber.parsed, signed, Bool.false_and, ← signed]
  have read := ofJson?_execution execution
  rw [plain] at read
  rw [roundTrip, Json.parse_canonicalJson (commandExecution_distinctKeys execution),
    Option.map_some, Option.some.injEq, commandExecutionFromRecord, read,
    assertSerializedCommandExecution_reread, bind_ok]
  constructor
  · rintro ⟨_, checked, _⟩
    exact assertSerializedCommandExecution_ok.mp checked
  · exact fun readable => ⟨(), assertSerializedCommandExecution_ok.mpr readable, rfl⟩

end RoundTrip

theorem canonicalBase64_iff {found : Option JsonValue} : found.any canonicalBase64 = true ↔
    ∃ bytes, found = some (.string (Base64.encode bytes)) := by
  constructor
  · intro canonical
    cases found with
    | none => cases canonical
    | some value =>
      cases value with
      | string text => exact ⟨Base64.decode text, by rw [eq_of_beq canonical]⟩
      | _ => cases canonical
  · rintro ⟨bytes, rfl⟩
    exact canonicalBase64_encode bytes

/-- What `assertSerializedCommandExecution` checks beside the encoding of the output. -/
def CommandEvidence (value : JsonValue) : Prop :=
  value.isRecord = true ∧
  value.hasOnlyKeys ["output", "stderr", "stdout"] ["failure"] = true ∧
  assertCommandReport ((value.get? "output").getD .null) = .ok () ∧
  ifPresent (value.get? "failure") assertFailure = .ok ()

/-- A record is accepted exactly when its outputs are texts that some bytes are encoded as. -/
theorem assertSerializedCommandExecution_encoded {value : JsonValue} :
    assertSerializedCommandExecution value = .ok () ↔ CommandEvidence value ∧
      (∃ bytes, value.get? "stdout" = some (.string (Base64.encode bytes))) ∧
      (∃ bytes, value.get? "stderr" = some (.string (Base64.encode bytes))) := by
  rw [assertSerializedCommandExecution_iff, canonicalBase64_iff, canonicalBase64_iff]
  simp only [Bool.and_eq_true, CommandEvidence]
  constructor
  · rintro ⟨⟨⟨⟨isRecord, keys⟩, _⟩, _⟩, report, failure, encoded⟩
    exact ⟨⟨isRecord, keys, report, failure⟩, encoded⟩
  · rintro ⟨⟨isRecord, keys, report, failure⟩, ⟨out, stdout⟩, ⟨err, stderr⟩⟩
    refine ⟨⟨⟨⟨isRecord, keys⟩, ?_⟩, ?_⟩, report, failure, ⟨out, stdout⟩, ⟨err, stderr⟩⟩
    · rw [stdout]
      rfl
    · rw [stderr]
      rfl

section Executors
variable {command : CommandDefinition} {workspace : WorkspaceRef} {cwd : Except Failure Unit}
  {events : List (Pipe × List UInt8)}

/-- The command, with the output of its two pipes cut and interleaved in any way, is recorded
faithfully. -/
structure Fidelity (maxOutputBytes : Nat) (out err : List UInt8) (execution : CommandExecution) :
    Prop where
  captures : Captures maxOutputBytes out err execution
  restored : roundTrip execution = some (.ok execution) ↔
    out.length ≤ maxSafeInteger ∧ err.length ≤ maxSafeInteger

theorem Captures.fidelity {maxOutputBytes : Nat} {out err : List UInt8}
    {execution : CommandExecution} (captures : Captures maxOutputBytes out err execution)
    (close : ChildClose) (exitCode : execution.output.exitCode = close.exitCode)
    (durationMs : execution.output.durationMs = close.durationMs) :
    Fidelity maxOutputBytes out err execution := by
  refine ⟨captures, ?_⟩
  rw [roundTrip_readable (by rw [durationMs]; exact close.elapsed.2),
    close.readable exitCode durationMs, Bool.and_eq_true, nonnegative_iff, nonnegative_iff,
    captures.stdoutBytes.safe, captures.stderrBytes.safe]

/-- The engine's executor makes no difference between a timeout and a cancellation. -/
def LocalClose.child (close : LocalClose) : ChildClose where
  exitCode := close.exitCode
  signal := close.signal
  failedToStart := close.failedToStart
  cancelled := close.timedOut
  timedOut := close.timedOut
  durationMs := close.durationMs
  exitStatus := close.exitStatus
  named := close.named
  timeoutCancels := id
  elapsed := close.elapsed

theorem local_limit {close : LocalClose} {execution : CommandExecution}
    (executed : LocalCommandExecutor.execute command workspace cwd events close =
      .ok execution) : command.maxOutputBytes ≤ 16777216 ∧
    execution = close.execution (captureOutput command.maxOutputBytes events) := by
  rw [LocalCommandExecutor.execute, require_bind_ok, require_bind_ok, require_bind_ok,
    bind_ok] at executed
  obtain ⟨_, _, _, _, _, executed⟩ := executed
  rw [require_bind_ok, Bool.and_eq_true, decide_eq_true_iff, decide_eq_true_iff] at executed
  obtain ⟨⟨_, _, limit⟩, made⟩ := executed
  exact ⟨limit, (Except.ok.inj made).symm⟩

theorem safe_limit (limit : command.maxOutputBytes ≤ 16777216) :
    command.maxOutputBytes ≤ maxSafeInteger :=
  Nat.le_trans limit (by rw [maxSafeInteger]; decide)

theorem local_fidelity {close : LocalClose} {execution : CommandExecution}
    (executed : LocalCommandExecutor.execute command workspace cwd events close =
      .ok execution) : Fidelity command.maxOutputBytes (streamOf .stdout events)
      (streamOf .stderr events) execution := by
  obtain ⟨limit, rfl⟩ := local_limit executed
  exact (captures_execution (safe_limit limit) events ..).fidelity close.child rfl rfl

theorem host_fidelity (admitted : assertCommandDefinition command = .ok ()) (close : ChildClose) :
    Fidelity command.maxOutputBytes (streamOf .stdout events) (streamOf .stderr events)
      (executeCommand command (chunksOf .stdout events) (chunksOf .stderr events) close) := by
  rw [assertCommandDefinition, require_ok, Bool.and_eq_true, decide_eq_true_iff] at admitted
  rw [executeCommand_capture (safe_limit admitted.2.2)]
  exact (captures_execution (safe_limit admitted.2.2) events ..).fidelity close rfl rfl

end Executors

/-- Both executors keep the first bytes of each pipe and report its total, which is exact up
to the largest safe integer; the record of an execution restores it exactly when both totals
are within that range; and a record is accepted only with outputs that bytes are encoded as. -/
theorem commandOutput_restored :
    (∀ (command : CommandDefinition) (workspace : WorkspaceRef) (cwd : Except Failure Unit)
      (events : List (Pipe × List UInt8)) (close : LocalClose) (execution : CommandExecution),
      LocalCommandExecutor.execute command workspace cwd events close = .ok execution →
        Fidelity command.maxOutputBytes (streamOf .stdout events) (streamOf .stderr events)
          execution) ∧
    (∀ (command : CommandDefinition) (events : List (Pipe × List UInt8)) (close : ChildClose),
      assertCommandDefinition command = .ok () →
        Fidelity command.maxOutputBytes (streamOf .stdout events) (streamOf .stderr events)
          (executeCommand command (chunksOf .stdout events) (chunksOf .stderr events) close)) ∧
    (∀ value : JsonValue, assertSerializedCommandExecution value = .ok () ↔
      CommandEvidence value ∧
      (∃ bytes, value.get? "stdout" = some (.string (Base64.encode bytes))) ∧
      (∃ bytes, value.get? "stderr" = some (.string (Base64.encode bytes)))) :=
  ⟨fun _ _ _ _ _ _ executed => local_fidelity executed,
    fun _ _ close admitted => host_fidelity admitted close,
    fun _ => assertSerializedCommandExecution_encoded⟩

def echoCommand : CommandDefinition where
  argv := ["echo"]
  cwd := "."
  maxDurationMs := 1000
  maxOutputBytes := 2

theorem exited_zero : ∀ code ∈ some (0 : Int), code.natAbs ≤ maxSafeInteger := by
  rintro code ⟨⟩
  exact Nat.zero_le _

theorem unsignalled : ∀ name ∈ (none : Option String), name ∈ signalNames := by
  rintro name ⟨⟩

theorem seven_elapsed : Json.Double (JsonNumber.ofNat 7) ∧ (JsonNumber.ofNat 7).negative = false :=
  ⟨by constructor <;> decide, rfl⟩

def echoClose : LocalClose where
  exitCode := some 0
  signal := none
  failedToStart := false
  timedOut := false
  durationMs := JsonNumber.ofNat 7
  exitStatus := exited_zero
  named := unsignalled
  elapsed := seven_elapsed

/-- Three chunks of two pipes, the second of them cut at the limit. -/
def echoEvents : List (Pipe × List UInt8) := [(.stdout, [104]), (.stderr, [33]), (.stdout, [105, 10])]

theorem echo_restored : ∃ execution,
    LocalCommandExecutor.execute echoCommand (.readonly "w" "/r" "/r" "c") (.ok ()) echoEvents
      echoClose = .ok execution ∧ execution.stdout = [104, 105] ∧ execution.stderr = [33] ∧
    roundTrip execution = some (.ok execution) := by
  have executed : LocalCommandExecutor.execute echoCommand (.readonly "w" "/r" "/r" "c") (.ok ())
      echoEvents echoClose =
      .ok (echoClose.execution (captureOutput echoCommand.maxOutputBytes echoEvents)) := rfl
  have faithful := commandOutput_restored.1 _ _ _ _ _ _ executed
  refine ⟨_, executed, faithful.captures.stdout, faithful.captures.stderr, ?_⟩
  exact faithful.restored.mpr (by decide)

/-- Chunks of one size on the standard output, and one byte after them. -/
def longOutput (size count : Nat) : List (Pipe × List UInt8) :=
  List.replicate count (.stdout, List.replicate size 0) ++ [(.stdout, [0])]

theorem chunksOf_longOutput (size count : Nat) : chunksOf .stdout (longOutput size count) =
    List.replicate count (List.replicate size 0) ++ [[0]] := by
  rw [longOutput, chunksOf_concat, if_pos rfl]
  congr 1
  induction count with
  | zero => rfl
  | succ count ih =>
    rw [List.replicate_succ', chunksOf_concat, if_pos rfl, ih, List.replicate_succ']

theorem sum_replicate_size (size count : Nat) :
    ((List.replicate count (List.replicate size (0 : UInt8))).map List.length).sum =
      size * count := by
  induction count with
  | zero => rfl
  | succ count ih =>
    rw [List.replicate_succ', List.map_append, List.sum_append, ih, List.map_singleton,
      List.length_replicate, List.sum_singleton, Nat.mul_succ]

/-- The last byte after 2^53 others is not counted. -/
theorem longOutput_bytes {size count : Nat} (full : size * (count + 1) = 2 ^ 53)
    (some : 1 ≤ size) (maxOutputBytes : Nat) :
    (keepOutput maxOutputBytes (chunksOf .stdout (longOutput size (count + 1)))).bytes = 2 ^ 53 ∧
      (streamOf .stdout (longOutput size (count + 1))).length = 2 ^ 53 + 1 := by
  have product : size * count + size = 2 ^ 53 := full
  have whole : Doubles.add (size * count) size = 2 ^ 53 := by
    rw [Doubles.add, product]
    decide
  have lost : Doubles.add (2 ^ 53) 1 = 2 ^ 53 := by decide
  constructor
  · have before := keepOutput_exact maxOutputBytes (List.replicate count (List.replicate size 0))
    rw [sum_replicate_size, maxSafeInteger] at before
    rw [chunksOf_longOutput, List.replicate_succ', keepOutput_counted, keepOutput_counted,
      before (by omega), List.length_replicate, whole]
    exact lost
  · rw [streamOf, chunksOf_longOutput, List.length_flatten, List.map_append, List.sum_append,
      sum_replicate_size, full]
    rfl

/-- A command that writes 2^53 + 1 bytes: one too few is reported, and the record of the
execution is refused. -/
theorem longOutput_miscounted : assertCommandDefinition echoCommand = .ok () ∧
    ∃ execution,
      execution = executeCommand echoCommand (chunksOf .stdout (longOutput 65536 137438953472))
        (chunksOf .stderr (longOutput 65536 137438953472)) echoClose.child ∧
      execution.output.stdoutBytes ≠ (streamOf .stdout (longOutput 65536 137438953472)).length ∧
      roundTrip execution ≠ some (.ok execution) := by
  obtain ⟨count, total⟩ : ∃ count, count + 1 = 137438953472 := ⟨137438953471, rfl⟩
  rw [← total]
  have admitted : assertCommandDefinition echoCommand = .ok () := by decide
  have full : 65536 * (count + 1) = 2 ^ 53 := by
    rw [total]
    decide
  obtain ⟨reported, written⟩ := longOutput_bytes full (by decide) echoCommand.maxOutputBytes
  refine ⟨admitted, _, rfl, ?_, ?_⟩
  · rw [written]
    exact fun same => absurd (reported.symm.trans same) (by decide)
  · have faithful := @host_fidelity _ (longOutput 65536 (count + 1)) admitted echoClose.child
    rw [Ne, faithful.restored, written]
    exact fun safe => absurd safe.1 (by decide)

end Anastom
