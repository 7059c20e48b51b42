import Anastom.ExecutionHost.LaunchRecord
import Anastom.ExecutionHost.RecordReading

/-! A launch input is read after a round trip through its text as it was read before: every
check looks only at what the text keeps, and so does the digest of the plan. -/
namespace Anastom.LaunchRecord
open JsonValue

theorem isObject_textual : Textual isObject := by
  intro value
  cases value <;> rfl

theorem truthy_textual : Textual truthy := by
  intro value
  cases value <;> rfl

theorem stringWhere_textual (check : String → Bool) : Textual (stringWhere check) := by
  intro value
  cases value <;> rfl

theorem arrayWhere_textual {least : Nat} {check : JsonValue → Bool} (same : Textual check) :
    Textual (arrayWhere least check) := by
  intro value
  cases value with
  | array items =>
    rw [reread, arrayWhere, arrayWhere, rereadItems_map, List.length_map, List.all_map]
    congr 1
    exact congrArg items.all (funext same)
  | _ => rfl

theorem sameString_reread (left right : Option JsonValue) :
    sameString (left.map reread) (right.map reread) = sameString left right := by
  cases left with
  | none => rfl
  | some left =>
    cases right with
    | none => cases left <;> rfl
    | some right => cases left <;> cases right <;> rfl

theorem joinedKeys_reread (value : JsonValue) : joinedKeys value.reread = joinedKeys value := by
  rw [joinedKeys, joinedKeys, sortKeys_perm value.keys_reread]

theorem itemTexts_cons {item : JsonValue} (other : item ≠ .null) (rest : List JsonValue) :
    itemTexts (item :: rest) =
      text item >>= fun first => itemTexts rest >>= fun texts => pure (first :: texts) := by
  cases item with
  | null => exact absurd rfl other
  | _ => rw [itemTexts]; exact other

theorem reread_null {value : JsonValue} : value.reread = .null ↔ value = .null := by
  cases value <;> simp [reread]

mutual
theorem text_reread : (value : JsonValue) → text value.reread = text value
  | .null | .bool true | .bool false | .string _ => by simp only [reread]
  | .number value => by rw [reread, text, text, Json.numberChars_parsed]
  | .array items => by rw [reread, text, text, itemTexts_reread items]
  | .object fields => by
    have own := get?_reread (.object fields) "toString"
    simp only [reread, get?] at own
    rw [reread, text, text, own, Option.isNone_map]
theorem itemTexts_reread : (items : List JsonValue) →
    itemTexts (rereadItems items) = itemTexts items
  | [] => rfl
  | item :: rest => by
    rw [rereadItems]
    by_cases null : item = .null
    · rw [null, reread, itemTexts, itemTexts, itemTexts_reread rest]
    · rw [itemTexts_cons null, itemTexts_cons (mt reread_null.mp null), text_reread item,
        itemTexts_reread rest]
end

theorem testPattern_reread (pattern : String → Bool) (value : Option JsonValue)
    (failure : Failure) :
    testPattern pattern (value.map reread) failure = testPattern pattern value failure := by
  cases value with
  | none => rfl
  | some value => rw [testPattern, testPattern, Option.map_some, Option.map_some, Option.map_some,
      text_reread]

theorem isSome_reread (value : Option JsonValue) : (value.map reread).isSome = value.isSome :=
  Option.isSome_map

/-- A check of an optional field that starts with its presence. -/
theorem requireSome_reread {check : JsonValue → Except Failure α}
    (same : ∀ value, check value.reread = check value) (value : Option JsonValue)
    (failure : Failure) :
    (requireSome (value.map reread) failure >>= check) =
      (requireSome value failure >>= check) := by
  cases value with
  | none => rfl
  | some value => exact same value

theorem assertExecutionPlanRef_reread (value : Option JsonValue) :
    assertExecutionPlanRef (value.map reread) = assertExecutionPlanRef value := by
  refine requireSome_reread (fun plan => ?_) value _
  simp only [get?_reread, isSome_reread, isObject_textual plan, joinedKeys_reread,
    any_reread (stringIn_reread _), any_reread (integerIn_reread _ _), isPositive,
    testPattern_reread]

theorem assertLocalProcessIdentity_reread (value : Option JsonValue) :
    assertLocalProcessIdentity (value.map reread) = assertLocalProcessIdentity value := by
  refine requireSome_reread (fun identity => ?_) value _
  simp only [get?_reread, isRecord_reread, joinedKeys_reread, any_reread (stringIn_reread _),
    any_reread (stringWhere_textual _), any_reread (integerIn_reread _ _), isPositive]

theorem runtimeDescriptorValidator_textual : Textual runtimeDescriptorValidator := by
  refine closedObject_textual fun property member => ?_
  simp only [List.mem_cons, List.not_mem_nil, or_false] at member
  rcases member with rfl | rfl | rfl | rfl
  · exact stringIn_reread _
  · exact stringWhere_textual _
  · exact stringWhere_textual _
  · exact isRecord_reread

theorem assertRuntimeDescriptor_reread (value : JsonValue) :
    assertRuntimeDescriptor value.reread = assertRuntimeDescriptor value := by
  rw [assertRuntimeDescriptor, assertRuntimeDescriptor, runtimeDescriptorValidator_textual,
    byteLength_reread]

theorem validString_textual : Textual validString := stringWhere_textual _

theorem isPositive_textual : Textual isPositive := integerIn_reread _ _

theorem validWorkspace_textual : Textual validWorkspace := by
  intro value
  simp only [validWorkspace, isRecord_reread, exactKeys_reread, get?_reread,
    any_reread validString_textual, any_reread isString_reread, any_reread (stringIn_reread _)]

theorem validBudget_textual : Textual validBudget := by
  intro value
  simp only [validBudget, isRecord_reread, hasOnlyKeys_reread, get?_reread,
    any_reread isPositive_textual, all_reread isPositive_textual]

theorem validCommand_textual : Textual validCommand := by
  intro value
  simp only [validCommand, isRecord_reread, exactKeys_reread, get?_reread,
    any_reread (arrayWhere_textual validString_textual), any_reread (stringWhere_textual _),
    any_reread isPositive_textual]

theorem validProducer_textual : Textual validProducer := by
  intro value
  simp only [validProducer, isRecord_reread, exactKeys_reread, get?_reread,
    any_reread validString_textual, any_reread isPositive_textual]

theorem validArtifact_textual : Textual validArtifact := by
  intro value
  simp only [validArtifact, isRecord_reread, exactKeys_reread, get?_reread,
    any_reread validString_textual, any_reread (stringWhere_textual _),
    any_reread validProducer_textual]

theorem validRole_textual : Textual validRole := by
  intro value
  simp only [validRole, isRecord_reread, exactKeys_reread, get?_reread,
    any_reread validString_textual]

theorem validTask_textual : Textual validTask := by
  intro value
  simp only [validTask, isRecord_reread, exactKeys_reread, get?_reread,
    any_reread validString_textual, any_reread (arrayWhere_textual validString_textual)]

theorem validContext_textual : Textual validContext := by
  intro value
  simp only [validContext, validContextScalars, validContextStructures, validContextTask,
    isRecord_reread, hasOnlyKeys_reread, get?_reread, any_reread isRecord_reread,
    all_reread (stringIn_reread _), all_reread validString_textual,
    all_reread isPositive_textual, all_reread validWorkspace_textual,
    all_reread validBudget_textual, all_reread validCommand_textual,
    all_reread (arrayWhere_textual validArtifact_textual), all_reread validRole_textual,
    all_reread validTask_textual]

theorem validToolPolicy_textual : Textual validToolPolicy := by
  intro value
  simp only [validToolPolicy, isRecord_reread, exactKeys_reread, get?_reread,
    any_reread isBoolean_reread]

theorem assertExecutionRequest_reread (value : JsonValue) :
    assertExecutionRequest value.reread = assertExecutionRequest value := by
  simp only [assertExecutionRequest, isRecord_reread, hasOnlyKeys_reread, get?_reread,
    any_reread validString_textual, any_reread (stringIn_reread _),
    any_reread isPositive_textual, any_reread validWorkspace_textual,
    any_reread validContext_textual, any_reread validBudget_textual, any_reread isRecord_reread,
    any_reread validToolPolicy_textual, all_reread validRole_textual, byteLength_reread]

theorem assertCommandDefinition_reread (command : JsonValue) :
    assertCommandDefinition command.reread = assertCommandDefinition command := by
  simp only [assertCommandDefinition, isObject_textual command, joinedKeys_reread, get?_reread,
    any_reread (arrayWhere_textual validString_textual), any_reread (stringWhere_textual _),
    any_reread (integerIn_reread _ _)]

theorem null_reread (value : JsonValue) : (value.reread != .null) = (value != .null) := by
  cases value <;> rfl

theorem assertFilesystemWorkspace_reread (workspace : JsonValue) :
    assertFilesystemWorkspace workspace.reread = assertFilesystemWorkspace workspace := by
  simp only [assertFilesystemWorkspace, null_reread, joinedKeys_reread, get?_reread,
    any_reread (stringIn_reread _), any_reread truthy_textual, testPattern_reread]

def Launch.reread : Launch → Launch
  | .runtime descriptor request => .runtime descriptor.reread request.reread
  | .command definition workspace => .command definition.reread workspace.reread

def UnplannedExecution.reread (input : UnplannedExecution) : UnplannedExecution where
  runId := input.runId.reread
  executionId := input.executionId.reread
  generation := input.generation.reread
  coordinator := input.coordinator.reread
  launch := input.launch.reread

theorem launchOf_reread (kind : Option JsonValue) (value : JsonValue) :
    launchOf (kind.map reread) value.reread = (launchOf kind value).map Launch.reread := by
  simp only [launchOf, any_reread (stringIn_reread _), get?_reread]
  split
  · cases value.get? "descriptor" <;> cases value.get? "request" <;> rfl
  · split
    · cases value.get? "command" <;> cases value.get? "workspace" <;> rfl
    · rfl

theorem assertLaunch_reread (plan value : JsonValue) (launch : Launch) :
    assertLaunch plan.reread value.reread launch.reread = assertLaunch plan value launch := by
  cases launch with
  | runtime descriptor request =>
    simp only [Launch.reread, assertLaunch, joinedKeys_reread, assertRuntimeDescriptor_reread,
      assertExecutionRequest_reread, get?_reread, sameString_reread]
  | command definition workspace =>
    simp only [Launch.reread, assertLaunch, joinedKeys_reread, assertCommandDefinition_reread,
      assertFilesystemWorkspace_reread]

theorem unplanned_reread (plan value : JsonValue) :
    unplanned plan.reread value.reread = (unplanned plan value).map UnplannedExecution.reread := by
  simp only [unplanned, get?_reread, launchOf_reread, bind, pure]
  cases plan.get? "runId" <;> cases plan.get? "executionId" <;> cases plan.get? "generation" <;>
    cases value.get? "coordinator" <;> cases launchOf (plan.get? "kind") value <;> rfl

/-- The digest is taken of a text that a round trip keeps. -/
theorem planDigestInput_reread (input : UnplannedExecution) :
    Json.canonicalJson (planDigestInput input.reread) =
      Json.canonicalJson (planDigestInput input) := by
  obtain ⟨runId, executionId, generation, coordinator, launch⟩ := input
  cases launch <;>
    simp only [planDigestInput, UnplannedExecution.reread, Launch.reread, Launch.kind,
      Launch.fields, Json.canonicalJson, Json.canonicalChars, List.cons_append, List.nil_append,
      Json.fieldTexts, Json.canonicalChars_reread]

/-- A launch input is accepted after a round trip through its text exactly when it was
accepted before, and fails with the same error otherwise. -/
theorem assertPrepareExecution_reread (hash : Hash) (value : JsonValue) :
    assertPrepareExecution hash value.reread = assertPrepareExecution hash value := by
  have required {α : Type} (launch : Option Launch) (failure : Failure)
      {check check' : Launch → Except Failure α} (same : ∀ l, check l.reread = check' l) :
      (requireSome (launch.map Launch.reread) failure >>= check) =
        (requireSome launch failure >>= check') := by
    cases launch with
    | none => rfl
    | some launch => exact same launch
  have digested {α : Type} (input : Option UnplannedExecution) (failure : Failure)
      {check check' : UnplannedExecution → Except Failure α}
      (same : ∀ i, check i.reread = check' i) :
      (requireSome (input.map UnplannedExecution.reread) failure >>= check) =
        (requireSome input failure >>= check') := by
    cases input with
    | none => rfl
    | some input => exact same input
  simp only [assertPrepareExecution, null_reread, get?_reread, assertExecutionPlanRef_reread,
    assertLocalProcessIdentity_reread, getD_reread, launchOf_reread, unplanned_reread,
    byteLength_reread]
  congr 1
  funext _
  congr 1
  funext _
  congr 1
  funext _
  refine required _ _ fun launch => ?_
  rw [assertLaunch_reread]
  congr 1
  funext _
  refine digested _ _ fun input => ?_
  have kept := sameString_reread (some (.string (hash.digestJson (planDigestInput input))))
    (((value.get? "plan").getD .null).get? "planDigest")
  rw [Hash.digestJson, planDigestInput_reread, ← Hash.digestJson]
  simp only [Option.map_some, reread] at kept
  rw [kept]

end Anastom.LaunchRecord
