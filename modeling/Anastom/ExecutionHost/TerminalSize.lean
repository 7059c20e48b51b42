import Anastom.ExecutionHost.TerminalRecord

/-! The bytes of a terminal record. Its compact form fits its limit whatever the runtime
and the command did: the events that must be kept take half a socket frame, and the typed
failure in place of the result is short. -/
namespace Anastom
open JsonValue Json

theorem byteLength_bool (value : Bool) : byteLength (.bool value) ≤ 5 := by
  rw [byteLength_chars]
  cases value <;> decide

theorem byteLength_null : byteLength .null = 4 := by
  rw [byteLength_chars]
  decide

theorem byteLength_version : byteLength (.string executionProtocolVersion) = 43 := by
  rw [executionProtocolVersion, byteLength_ofList]
  decide

theorem byteLength_verdict (cleanup : CleanupOutcome) : byteLength (.string cleanup.word) ≤ 11 := by
  cases cleanup
  all_goals
    rw [CleanupOutcome.word, byteLength_ofList]
    decide

theorem byteLength_int {n : Int} (safe : n.natAbs ≤ maxSafeInteger) :
    byteLength (.number (JsonNumber.ofInt n)) ≤ 17 := by
  have magnitude := byteLength_safe (nonnegative_iff.mpr safe)
  rw [nat, byteLength_number] at magnitude
  have signed : (numberChars (JsonNumber.ofInt n)).length ≤
      (numberChars (JsonNumber.ofNat n.natAbs)).length + 1 := by
    have unsigned := JsonNumber.ofNat_negative n.natAbs
    unfold JsonNumber.ofInt
    generalize JsonNumber.ofNat n.natAbs = value at unsigned ⊢
    obtain ⟨sign, digits, exponent, normal⟩ := value
    cases unsigned
    simp only [numberChars]
    split
    · exact Nat.le_add_right _ _
    · rw [List.length_append, List.length_append]
      split <;> simp only [List.length_cons, List.length_nil, Bool.false_eq_true, if_false] <;> omega
  rw [byteLength_number]
  omega

theorem byteLength_signal {name : String} (named : name ∈ signalNames) :
    byteLength (.string name) ≤ 11 := by
  have table : ∀ name ∈ signalNames, byteLength (.string name) ≤ 11 := by
    simp only [signalNames, List.forall_mem_cons, List.not_mem_nil, false_imp_iff, implies_true,
      and_true]
    repeat' apply And.intro
    all_goals
      rw [byteLength_ofList]
      decide
  exact table name named

/-- The bytes of a record around its events and its result. -/
theorem terminalRecord_bytes {record : ExecutionTerminalRecord}
    (identified : Text.uuid record.executionId = true)
    (generation : positive record.generation = true) :
    byteLength record.toJson ≤
      400 + RetainedEvents.eventBytes record.events + byteLength record.result.toJson := by
  obtain ⟨length, chars⟩ := Text.uuid_chars identified
  have safe : nonnegative record.generation = true :=
    nonnegative_iff.mpr (positive_iff.mp generation).2
  have executionId := byteLength_unescaped chars
  have count := byteLength_safe safe
  have outcome := byteLength_status record.outcome
  have cleanup := byteLength_verdict record.cleanup
  have keys : byteLength (.string "version") = 9 ∧ byteLength (.string "executionId") = 13 ∧
      byteLength (.string "generation") = 12 ∧ byteLength (.string "outcome") = 9 ∧
      byteLength (.string "events") = 8 ∧ byteLength (.string "result") = 8 ∧
      byteLength (.string "cleanup") = 9 := by
    repeat' apply And.intro
    all_goals
      rw [byteLength_ofList]
      decide
  rw [ExecutionTerminalRecord.toJson, byteLength_object]
  simp only [List.map_cons, List.map_nil, List.sum_cons, List.sum_nil, memberLength,
    List.length_cons, List.length_nil, keys, byteLength_version]
  rw [RetainedEvents.eventBytes]
  omega

theorem failure_bytes (failure : ExecutionFailure) :
    byteLength failure.toJson =
      byteLength (.string failure.category.text) + byteLength (.string failure.message) + 24 := by
  have keys : byteLength (.string "category") = 10 ∧ byteLength (.string "message") = 9 := by
    constructor
    all_goals
      rw [byteLength_ofList]
      decide
  rw [ExecutionFailure.toJson, byteLength_object]
  simp only [List.map_cons, List.map_nil, List.sum_cons, List.sum_nil, memberLength,
    List.length_cons, List.length_nil, keys]
  omega

theorem failedResult_bytes (failure : ExecutionFailure) :
    byteLength (ExecutionResult.failed failure).toJson = byteLength failure.toJson + 30 := by
  have texts : byteLength (.string "status") = 8 ∧ byteLength (.string "failed") = 8 ∧
      byteLength (.string "failure") = 9 := by
    repeat' apply And.intro
    all_goals
      rw [byteLength_ofList]
      decide
  rw [ExecutionResult.toJson, byteLength_object]
  simp only [List.map_cons, List.map_nil, List.sum_cons, List.sum_nil, memberLength,
    List.length_cons, List.length_nil, texts]
  omega

theorem runtimeResult_bytes (value : ExecutionResult) :
    byteLength (TerminalResult.runtime value).toJson = byteLength value.toJson + 27 := by
  have texts : byteLength (.string "kind") = 6 ∧ byteLength (.string "runtime") = 9 ∧
      byteLength (.string "value") = 7 := by
    repeat' apply And.intro
    all_goals
      rw [byteLength_ofList]
      decide
  rw [TerminalResult.toJson, byteLength_object]
  simp only [List.map_cons, List.map_nil, List.sum_cons, List.sum_nil, memberLength,
    List.length_cons, List.length_nil, texts]
  omega

/-- The failure that a runtime's result is compacted to. -/
theorem compactFailure_bytes : byteLength (ExecutionFailure.toJson ⟨.schemaViolation,
    "Normalized execution result exceeded the terminal evidence limit"⟩) = 108 := by
  have texts : byteLength (.string "schema-violation") = 18 ∧
      byteLength (.string "Normalized execution result exceeded the terminal evidence limit") =
        66 := by
    constructor
    all_goals
      rw [byteLength_ofList]
      decide
  rw [failure_bytes]
  simp only [FailureCategory.text, texts]

/-- The typed failure in place of a runtime's result is short. -/
theorem compactRuntime_bytes (value : ExecutionResult) :
    byteLength (compactResult (.runtime value)).toJson ≤ 400 := by
  rw [compactResult, runtimeResult_bytes, failedResult_bytes, compactFailure_bytes]
  decide

/-- A report with readable numbers is short. -/
theorem commandReport_bytes {report : CommandReport} (readable : report.readable = true)
    (elapsed : Double report.durationMs) (named : ∀ name ∈ report.signal, name ∈ signalNames) :
    byteLength report.toJson ≤ 300 := by
  simp only [CommandReport.readable, CommandReport.valid, Bool.and_eq_true] at readable
  obtain ⟨⟨⟨_, stdout⟩, stderr⟩, exitStatus⟩ := readable
  have passed := byteLength_bool report.passed
  have stdoutTruncated := byteLength_bool report.stdoutTruncated
  have stderrTruncated := byteLength_bool report.stderrTruncated
  have stdoutBytes := byteLength_safe stdout
  have stderrBytes := byteLength_safe stderr
  have durationMs := byteLength_double elapsed
  have exitCode : byteLength ((report.exitCode.map fun code =>
      JsonValue.number (JsonNumber.ofInt code)).getD .null) ≤ 17 := by
    cases known : report.exitCode with
    | none => rw [Option.map_none, Option.getD_none, byteLength_null]; decide
    | some code =>
      rw [known] at exitStatus
      exact byteLength_int (of_decide_eq_true exitStatus)
  have signal : byteLength ((report.signal.map JsonValue.string).getD .null) ≤ 11 := by
    cases known : report.signal with
    | none => rw [Option.map_none, Option.getD_none, byteLength_null]; decide
    | some name => exact byteLength_signal (named name known)
  have keys : byteLength (.string "passed") = 8 ∧ byteLength (.string "exitCode") = 10 ∧
      byteLength (.string "signal") = 8 ∧ byteLength (.string "durationMs") = 12 ∧
      byteLength (.string "stdoutBytes") = 13 ∧ byteLength (.string "stderrBytes") = 13 ∧
      byteLength (.string "stdoutTruncated") = 17 ∧
      byteLength (.string "stderrTruncated") = 17 := by
    repeat' apply And.intro
    all_goals
      rw [byteLength_ofList]
      decide
  rw [CommandReport.toJson, byteLength_object]
  simp only [List.map_cons, List.map_nil, List.sum_cons, List.sum_nil, memberLength,
    List.length_cons, List.length_nil, keys]
  omega

/-- The typed failure in place of a command's result is short. -/
theorem compactCommand_bytes {value : SerializedCommandExecution}
    (readable : value.output.readable = true) (elapsed : Double value.output.durationMs)
    (named : ∀ name ∈ value.output.signal, name ∈ signalNames) :
    byteLength (compactResult (.command value)).toJson ≤ 600 := by
  let report : CommandReport :=
    { value.output with
      passed := false
      stdoutTruncated := decide (value.output.stdoutBytes > 0)
      stderrTruncated := decide (value.output.stderrBytes > 0) }
  have bytes : byteLength report.toJson ≤ 300 := commandReport_bytes readable elapsed named
  let failure : ExecutionFailure :=
    ⟨.schemaViolation, "Command result exceeded the terminal evidence limit"⟩
  have form : (compactResult (.command value)).toJson =
      .object [("kind", .string "command"), ("value", .object [("output", report.toJson),
        ("stdout", .string ""), ("stderr", .string ""), ("failure", failure.toJson)])] := rfl
  have texts : byteLength (.string "kind") = 6 ∧ byteLength (.string "command") = 9 ∧
      byteLength (.string "value") = 7 ∧ byteLength (.string "output") = 8 ∧
      byteLength (.string "stdout") = 8 ∧ byteLength (.string "stderr") = 8 ∧
      byteLength (.string "failure") = 9 ∧ byteLength (.string "") = 2 ∧
      byteLength (.string "schema-violation") = 18 ∧
      byteLength (.string "Command result exceeded the terminal evidence limit") = 53 := by
    repeat' apply And.intro
    all_goals
      rw [byteLength_ofList]
      decide
  rw [form, byteLength_object]
  simp only [List.map_cons, List.map_nil, List.sum_cons, List.sum_nil, memberLength,
    List.length_cons, List.length_nil, byteLength_object, failure_bytes, failure,
    FailureCategory.text, texts]
  omega

end Anastom
