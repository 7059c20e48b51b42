import Anastom.ExecutionHost.RecordReading

/-! The bytes of runtime events and of the frames that carry them. -/
namespace Anastom
open JsonValue Json

theorem byteLength_status (status : ResultStatus) : byteLength (.string status.text) ≤ 11 := by
  cases status
  all_goals
    rw [ResultStatus.text, byteLength_ofList]
    decide

namespace RuntimeEvent

theorem started_bytes : byteLength started.toJson = 18 := by
  have texts : byteLength (.string "type") = 6 ∧ byteLength (.string "started") = 9 := by
    constructor
    all_goals
      rw [byteLength_ofList]
      decide
  rw [toJson, byteLength_object]
  simp only [List.map_cons, List.map_nil, List.sum_cons, List.sum_nil, memberLength,
    List.length_cons, List.length_nil, texts]
  rfl

theorem completed_bytes (status : ResultStatus) : byteLength (completed status).toJson ≤ 41 := by
  have bytes := byteLength_status status
  have texts : byteLength (.string "type") = 6 ∧ byteLength (.string "completed") = 11 ∧
      byteLength (.string "status") = 8 := by
    repeat' apply And.intro
    all_goals
      rw [byteLength_ofList]
      decide
  rw [toJson, byteLength_object]
  simp only [List.map_cons, List.map_nil, List.sum_cons, List.sum_nil, memberLength,
    List.length_cons, List.length_nil, texts]
  omega

/-- A log is its message, its type, and the count of dropped logs if it carries one. -/
theorem log_bytes (message : String) (droppedLogs : Option Nat) :
    byteLength (log message droppedLogs).toJson = byteLength (.string message) + 25 +
      (droppedLogs.map fun count => byteLength (nat count) + 15).getD 0 := by
  have texts : byteLength (.string "type") = 6 ∧ byteLength (.string "log") = 5 ∧
      byteLength (.string "message") = 9 ∧ byteLength (.string "droppedLogs") = 13 := by
    repeat' apply And.intro
    all_goals
      rw [byteLength_ofList]
      decide
  cases droppedLogs
  all_goals
    simp only [toJson, byteLength_object, field, JsonValue.optional, List.map_append, List.map_cons,
      List.map_nil, List.sum_append, List.sum_cons, List.sum_nil, memberLength, List.length_append,
      List.length_cons, List.length_nil, texts, Option.map_none, Option.map_some, Option.getD_none,
      Option.getD_some]
    omega

end RuntimeEvent

/-- An event frame is its event and 25 bytes. -/
theorem eventFrame_bytes (event : RuntimeEvent) :
    byteLength (RuntimeHostOutput.event event).toJson = byteLength event.toJson + 25 := by
  have texts : byteLength (.string "type") = 6 ∧ byteLength (.string "event") = 7 := by
    constructor
    all_goals
      rw [byteLength_ofList]
      decide
  simp only [RuntimeHostOutput.toJson, byteLength_object, List.map_cons, List.map_nil,
    List.sum_cons, List.sum_nil, memberLength, texts, List.length_cons, List.length_nil]
  omega

theorem assertRuntimeHostOutput_started :
    assertRuntimeHostOutput (RuntimeHostOutput.event .started).toJson = .ok () := by
  refine assertRuntimeHostOutput_event.mpr ⟨rfl, ?_⟩
  rw [RuntimeEvent.started_bytes]
  decide

theorem assertRuntimeHostOutput_completed (status : ResultStatus) :
    assertRuntimeHostOutput (RuntimeHostOutput.event (.completed status)).toJson = .ok () :=
  assertRuntimeHostOutput_event.mpr
    ⟨rfl, Nat.le_trans (RuntimeEvent.completed_bytes status) (by decide)⟩

end Anastom
