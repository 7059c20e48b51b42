import Anastom.Engine.JsonRoundTrip
import Anastom.ExecutionHost.LaunchReading
import Anastom.Persistence.Integrity

/-! The digest of a plan binds the launch input: of the launch inputs accepted under one
digest, no two differ, whether the digest is read off a plan, a start authority or a
manifest. What the text of a value leaves out, the order of its keys and the sign of zero,
is not bound. -/
namespace Anastom

theorem Json.canonicalJson_reread {left right : JsonValue} (distinct : left.distinctKeys = true)
    (distinct' : right.distinctKeys = true)
    (same : Json.canonicalJson left = Json.canonicalJson right) : left.reread = right.reread := by
  have read := Json.parse_canonicalJson distinct
  rw [same, Json.parse_canonicalJson distinct'] at read
  exact (Option.some.inj read).symm

namespace JsonValue

theorem distinctKeysFields_iff {fields : List (String × JsonValue)} :
    distinctKeysFields fields = true ↔ ∀ entry ∈ fields, entry.2.distinctKeys = true := by
  induction fields with
  | nil => simp [distinctKeysFields]
  | cons entry rest ih => simp [distinctKeysFields, ih]

mutual
/-- Parsing gives each object one member under a key. -/
theorem reread_distinct : {value : JsonValue} → value.distinctKeys = true →
    value.reread.distinctKeys = true
  | .null, _ | .bool _, _ | .number _, _ | .string _, _ => by simp only [reread, distinctKeys]
  | .array items, distinct => by
    rw [distinctKeys] at distinct
    rw [reread, distinctKeys]
    exact rereadItems_distinct distinct
  | .object fields, distinct => by
    have keys := keys_reread (.object fields)
    rw [distinctKeys, Bool.and_eq_true, decide_eq_true_iff] at distinct
    rw [reread, JsonValue.keys, JsonValue.keys] at keys
    rw [reread, distinctKeys, Bool.and_eq_true, decide_eq_true_iff, distinctKeysFields_iff]
    refine ⟨keys.nodup_iff.mpr distinct.1, fun entry member => ?_⟩
    have each := distinctKeysFields_iff.mp (rereadFields_distinct distinct.2)
    exact each entry ((Js.parsedOrder_perm Prod.fst _).mem_iff.mp member)
theorem rereadItems_distinct : {items : List JsonValue} → distinctKeysItems items = true →
    distinctKeysItems (rereadItems items) = true
  | [], _ => rfl
  | _ :: _, distinct => by
    rw [distinctKeysItems, Bool.and_eq_true] at distinct
    rw [rereadItems, distinctKeysItems, reread_distinct distinct.1,
      rereadItems_distinct distinct.2, Bool.and_self]
theorem rereadFields_distinct : {fields : List (String × JsonValue)} →
    distinctKeysFields fields = true → distinctKeysFields (rereadFields fields) = true
  | [], _ => rfl
  | (_, _) :: _, distinct => by
    rw [distinctKeysFields, Bool.and_eq_true] at distinct
    rw [rereadFields, distinctKeysFields, reread_distinct distinct.1,
      rereadFields_distinct distinct.2, Bool.and_self]
end

theorem get?_distinct {value field : JsonValue} {key : String}
    (distinct : value.distinctKeys = true) (found : value.get? key = some field) :
    field.distinctKeys = true := by
  cases value with
  | object fields =>
    rw [distinctKeys, Bool.and_eq_true] at distinct
    exact distinctKeysFields_iff.mp distinct.2 _ (lookup_mem found)
  | _ => cases found

theorem mem_keys {value field : JsonValue} {key : String} (found : value.get? key = some field) :
    key ∈ value.keys := by
  cases value with
  | object fields => exact List.mem_map_of_mem (f := Prod.fst) (lookup_mem found)
  | _ => cases found

end JsonValue

namespace LaunchRecord
open JsonValue

/-- The plan of a launch input. -/
def planRef (value : JsonValue) : JsonValue := (value.get? "plan").getD .null

/-- Equal in one field, up to the order of keys and the sign of zero. -/
def AlikeAt (key : String) (left right : JsonValue) : Prop :=
  (left.get? key).map reread = (right.get? key).map reread

/-- One run, execution, generation, kind and coordinator, and one launch input. -/
structure SameLaunch (left right : JsonValue) : Prop where
  plan : ∀ key ∈ ["runId", "executionId", "generation", "kind"],
    AlikeAt key (planRef left) (planRef right)
  launch : ∀ key ∈ ["coordinator", "descriptor", "request", "command", "workspace"],
    AlikeAt key left right

theorem kind_some {kind : Option JsonValue} {name : String}
    (named : kind.any (stringIn [name]) = true) : kind = some (.string name) := by
  cases kind with
  | none => cases named
  | some value =>
    cases value with
    | string text =>
      have same : text = name := by simpa [stringIn] using named
      rw [same]
    | _ => cases named

/-- The launch input is read from the fields that its kind names. -/
theorem launchOf_fields {kind : Option JsonValue} {value : JsonValue} {launch : Launch}
    (read : launchOf kind value = some launch) : kind = some (.string launch.kind) ∧
      ∀ entry ∈ launch.fields, value.get? entry.1 = some entry.2 := by
  unfold launchOf at read
  split at read
  case isTrue runtime =>
    obtain ⟨descriptor, first, rest⟩ := Option.bind_eq_some_iff.mp read
    obtain ⟨request, second, rfl⟩ := Option.map_eq_some_iff.mp rest
    refine ⟨kind_some runtime, ?_⟩
    simp only [Launch.fields, List.forall_mem_cons, first, second, true_and]
    exact List.forall_mem_nil _
  case isFalse =>
    split at read
    case isTrue command =>
      obtain ⟨definition, first, rest⟩ := Option.bind_eq_some_iff.mp read
      obtain ⟨workspace, second, rfl⟩ := Option.map_eq_some_iff.mp rest
      refine ⟨kind_some command, ?_⟩
      simp only [Launch.fields, List.forall_mem_cons, first, second, true_and]
      exact List.forall_mem_nil _
    case isFalse => cases read

/-- The digested fields are the fields of the plan and of the launch input. -/
structure Reads (plan value : JsonValue) (input : UnplannedExecution) : Prop where
  runId : plan.get? "runId" = some input.runId
  executionId : plan.get? "executionId" = some input.executionId
  generation : plan.get? "generation" = some input.generation
  coordinator : value.get? "coordinator" = some input.coordinator
  kind : plan.get? "kind" = some (.string input.launch.kind)
  launch : ∀ entry ∈ input.launch.fields, value.get? entry.1 = some entry.2

theorem unplanned_reads {plan value : JsonValue} {input : UnplannedExecution}
    (read : unplanned plan value = some input) : Reads plan value input := by
  simp only [unplanned, bind, pure, Option.bind_eq_some_iff, Option.some.injEq] at read
  obtain ⟨runId, first, executionId, second, generation, third, coordinator, fourth, launch,
    fifth, rfl⟩ := read
  obtain ⟨kind, fields⟩ := launchOf_fields fifth
  exact ⟨first, second, third, fourth, kind, fields⟩

/-- The keys a launch input of its kind has. -/
def Launch.keys : Launch → String
  | .runtime .. => "coordinator,descriptor,plan,request"
  | .command .. => "command,coordinator,plan,workspace"

/-- What an accepted launch input is known to hold. -/
structure Admitted (hash : Hash) (value : JsonValue) (input : UnplannedExecution) : Prop where
  read : unplanned (planRef value) value = some input
  keys : joinedKeys value = input.launch.keys
  digest : (planRef value).get? "planDigest" =
    some (.string (hash.digestJson (planDigestInput input)))

theorem sameString_some {text : String} {value : Option JsonValue}
    (same : sameString (some (.string text)) value = true) : value = some (.string text) := by
  cases value with
  | none => cases same
  | some value =>
    cases value with
    | string other => rw [beq_iff_eq.mp same]
    | _ => cases same

theorem assertLaunch_keys {plan value : JsonValue} {launch : Launch} {u : Unit}
    (accepted : assertLaunch plan value launch = .ok u) : joinedKeys value = launch.keys := by
  cases launch with
  | runtime descriptor request =>
    exact beq_iff_eq.mp (require_bind_ok.mp accepted).1
  | command definition workspace =>
    exact beq_iff_eq.mp (require_bind_ok.mp accepted).1

theorem assertPrepareExecution_admitted {hash : Hash} {value : JsonValue} {u : Unit}
    (accepted : assertPrepareExecution hash value = .ok u) :
    ∃ input, Admitted hash value input := by
  simp only [assertPrepareExecution, bind_ok, require_ok, requireSome_ok] at accepted
  obtain ⟨_, _, _, _, _, _, launch, launched, _, checked, input, read, _, digest, _⟩ := accepted
  have fields := unplanned_reads read
  have same : launch = input.launch := by
    simp only [unplanned, bind, pure, Option.bind_eq_some_iff, Option.some.injEq] at read
    obtain ⟨_, _, _, _, _, _, _, _, other, found, rfl⟩ := read
    rw [launched] at found
    exact Option.some.inj found
  rw [same] at checked
  exact ⟨input, read, assertLaunch_keys checked, sameString_some digest⟩

theorem mem_intercalate {separator : List Char} {texts : List (List Char)} {text : List Char}
    (member : text ∈ texts) : text <:+: separator.intercalate texts := by
  induction texts with
  | nil => cases member
  | cons head rest ih =>
    cases rest with
    | nil =>
      have same := List.mem_singleton.mp member
      have whole : separator.intercalate [head] = head := List.intercalate_singleton
      exact ⟨[], [], by rw [same, whole, List.append_nil, List.nil_append]⟩
    | cons next rest =>
      rw [List.intercalate_cons_cons]
      rcases List.mem_cons.mp member with rfl | later
      · exact ⟨[], separator ++ separator.intercalate (next :: rest), by simp⟩
      · exact (ih later).trans ⟨head ++ separator, [], by simp⟩

theorem keys_joined {value : JsonValue} {key : String} (member : key ∈ value.keys) :
    key.toList <:+: (joinedKeys value).toList := by
  rw [joinedKeys, String.toList_intercalate]
  refine mem_intercalate (List.mem_map_of_mem ?_)
  exact (List.perm_insertionSort _ _).mem_iff.mpr member

theorem get?_absent {value : JsonValue} {key : String}
    (absent : ¬ key.toList <:+: (joinedKeys value).toList) : value.get? key = none := by
  cases found : value.get? key with
  | none => rfl
  | some field => exact absurd (keys_joined (mem_keys found)) absent

theorem other_absent :
    (∀ key ∈ ["command", "workspace"],
      ¬ key.toList <:+: "coordinator,descriptor,plan,request".toList) ∧
    ∀ key ∈ ["descriptor", "request"],
      ¬ key.toList <:+: "command,coordinator,plan,workspace".toList := by
  simp only [List.forall_mem_cons, List.not_mem_nil, false_imp_iff, implies_true, and_true]
  refine ⟨⟨?_, ?_⟩, ?_, ?_⟩
  all_goals
    rw [String.toList_ofList, String.toList_ofList]
    decide

/-- A launch input has no field of the other kind. -/
theorem Admitted.absent {hash : Hash} {value : JsonValue} {input : UnplannedExecution}
    (admitted : Admitted hash value input) :
    ∀ key ∈ ["descriptor", "request", "command", "workspace"],
      key ∉ input.launch.fields.map Prod.fst → value.get? key = none := by
  intro key member other
  refine get?_absent ?_
  rw [admitted.keys]
  have listed : key ∈ ["descriptor", "request"] ∨ key ∈ ["command", "workspace"] := by
    simpa only [List.mem_cons, List.not_mem_nil, or_false, or_assoc] using member
  cases kind : input.launch with
  | runtime descriptor request =>
    rw [kind] at other
    exact other_absent.1 key (listed.resolve_left other)
  | command definition workspace =>
    rw [kind] at other
    exact other_absent.2 key (listed.resolve_right other)

section
variable {hash : Hash} {left right : JsonValue}

theorem planRef_distinct (distinct : left.distinctKeys = true) :
    (planRef left).distinctKeys = true := by
  unfold planRef
  cases found : left.get? "plan" with
  | none => rfl
  | some plan => exact get?_distinct distinct found

theorem planDigestInput_distinct {plan value : JsonValue} {input : UnplannedExecution}
    (fields : Reads plan value input) (distinct : plan.distinctKeys = true)
    (distinct' : value.distinctKeys = true) : (planDigestInput input).distinctKeys = true := by
  have common := And.intro (get?_distinct distinct fields.runId)
    (And.intro (get?_distinct distinct fields.executionId)
      (And.intro (get?_distinct distinct fields.generation)
        (get?_distinct distinct' fields.coordinator)))
  have launched : ∀ entry ∈ input.launch.fields, entry.2.distinctKeys = true :=
    fun entry member => get?_distinct distinct' (fields.launch entry member)
  have each : distinctKeysFields ([("version", .string "anastom.dev/execution-plan/v1alpha1"),
      ("runId", input.runId), ("executionId", input.executionId),
      ("generation", input.generation), ("coordinator", input.coordinator),
      ("kind", .string input.launch.kind)] ++ input.launch.fields) = true := by
    rw [distinctKeysFields_iff, List.forall_mem_append]
    refine ⟨?_, launched⟩
    simp only [List.forall_mem_cons, common, distinctKeys, true_and]
    exact List.forall_mem_nil _
  cases kind : input.launch with
  | runtime descriptor request =>
    rw [kind] at each
    rw [planDigestInput, kind]
    exact distinctKeys_object ["version", "runId", "executionId", "generation", "coordinator",
      "kind", "descriptor", "request"] rfl (by decide) each
  | command definition workspace =>
    rw [kind] at each
    rw [planDigestInput, kind]
    exact distinctKeys_object ["version", "runId", "executionId", "generation", "coordinator",
      "kind", "command", "workspace"] rfl (by decide) each

theorem Launch.fields_reread (launch : Launch) :
    launch.reread.fields = rereadFields launch.fields := by
  cases launch <;> rfl

theorem Launch.kind_reread (launch : Launch) : launch.reread.kind = launch.kind := by
  cases launch <;> rfl

/-- Launch inputs of one kind with equal fields are equal. -/
theorem launch_same {launch other : Launch} (kind : launch.kind = other.kind)
    (same : ∀ key ∈ ["descriptor", "request", "command", "workspace"],
      (launch.fields.lookup key).map reread = (other.fields.lookup key).map reread) :
    launch.reread = other.reread := by
  simp only [List.forall_mem_cons] at same
  obtain ⟨descriptor, request, command, workspace, _⟩ := same
  cases launch with
  | runtime =>
    cases other with
    | runtime =>
      simp [Launch.fields, List.lookup_cons] at descriptor request
      rw [Launch.reread, Launch.reread, descriptor, request]
    | command => simp [Launch.kind] at kind
  | command =>
    cases other with
    | runtime => simp [Launch.kind] at kind
    | command =>
      simp [Launch.fields, List.lookup_cons] at command workspace
      rw [Launch.reread, Launch.reread, command, workspace]

/-- Equal up to the order of keys and the sign of zero, digest inputs have equal fields. -/
theorem planDigestInput_same {input other : UnplannedExecution}
    (same : (planDigestInput input).reread = (planDigestInput other).reread) :
    input.reread = other.reread := by
  have at_key (key : String) : ((planDigestInput input).get? key).map reread =
      ((planDigestInput other).get? key).map reread := by
    rw [← get?_reread, ← get?_reread, same]
  have launched (digested : UnplannedExecution) :
      ∀ key ∈ ["descriptor", "request", "command", "workspace"],
        (planDigestInput digested).get? key = digested.launch.fields.lookup key := by
    simp [planDigestInput, get?, List.lookup_cons]
  have kind := at_key "kind"
  have runId := at_key "runId"
  have executionId := at_key "executionId"
  have generation := at_key "generation"
  have coordinator := at_key "coordinator"
  simp [planDigestInput, get?, List.lookup_cons] at runId executionId generation coordinator
  simp [planDigestInput, get?, List.lookup_cons, reread] at kind
  have launch : input.launch.reread = other.launch.reread := by
    refine launch_same kind fun key member => ?_
    rw [← launched input key member, ← launched other key member]
    exact at_key key
  rw [UnplannedExecution.reread, UnplannedExecution.reread, runId, executionId, generation,
    coordinator, launch]

/-- The fields of a launch input are those of its kind. -/
theorem Admitted.get? {input : UnplannedExecution} (admitted : Admitted hash left input) :
    ∀ key ∈ ["descriptor", "request", "command", "workspace"],
      left.get? key = input.launch.fields.lookup key := by
  intro key member
  have fields := (unplanned_reads admitted.read).launch
  cases own : input.launch.fields.lookup key with
  | some field => exact fields _ (lookup_mem own)
  | none =>
    refine admitted.absent key member fun inside => ?_
    obtain ⟨entry, listed, rfl⟩ := List.mem_map.mp inside
    rw [List.lookup_eq_none_iff] at own
    exact absurd rfl (bne_iff_ne.mp (own entry listed))

theorem Admitted.same {input other : UnplannedExecution} (admitted : Admitted hash left input)
    (admitted' : Admitted hash right other) (same : input.reread = other.reread) :
    SameLaunch left right := by
  have fields := unplanned_reads admitted.read
  have fields' := unplanned_reads admitted'.read
  simp only [UnplannedExecution.reread, UnplannedExecution.mk.injEq] at same
  obtain ⟨runId, executionId, generation, coordinator, launch⟩ := same
  have kind : input.launch.kind = other.launch.kind := by
    rw [← input.launch.kind_reread, launch, Launch.kind_reread]
  refine ⟨?_, ?_⟩
  · simp only [List.forall_mem_cons]
    refine ⟨?_, ?_, ?_, ?_, List.forall_mem_nil _⟩
    · rw [AlikeAt, fields.runId, fields'.runId, Option.map_some, Option.map_some, runId]
    · rw [AlikeAt, fields.executionId, fields'.executionId, Option.map_some, Option.map_some,
        executionId]
    · rw [AlikeAt, fields.generation, fields'.generation, Option.map_some, Option.map_some,
        generation]
    · rw [AlikeAt, fields.kind, fields'.kind, kind]
  · rw [List.forall_mem_cons]
    refine ⟨?_, fun key member => ?_⟩
    · rw [AlikeAt, fields.coordinator, fields'.coordinator, Option.map_some, Option.map_some,
        coordinator]
    · rw [AlikeAt, admitted.get? key member, admitted'.get? key member, ← rereadFields_lookup,
        ← rereadFields_lookup, ← Launch.fields_reread, launch, Launch.fields_reread]

/-- The text that the digest of a plan is taken of, if the launch input has one. -/
def digestTexts (value : JsonValue) : List String :=
  (unplanned (planRef value) value).toList.map fun input =>
    Json.canonicalJson (planDigestInput input)

theorem Admitted.digestTexts {input : UnplannedExecution} (admitted : Admitted hash left input) :
    digestTexts left = [Json.canonicalJson (planDigestInput input)] := by
  rw [LaunchRecord.digestTexts, admitted.read]
  rfl

/-- Two launch inputs accepted under one plan digest are the same. -/
theorem planDigest_sameLaunch
    (accepted : assertPrepareExecution hash left = .ok ())
    (accepted' : assertPrepareExecution hash right = .ok ())
    (distinct : left.distinctKeys = true) (distinct' : right.distinctKeys = true)
    (digest : (planRef left).get? "planDigest" = (planRef right).get? "planDigest")
    (free : Integrity.CollisionFree hash (digestTexts left ++ digestTexts right)) :
    SameLaunch left right := by
  obtain ⟨input, admitted⟩ := assertPrepareExecution_admitted accepted
  obtain ⟨other, admitted'⟩ := assertPrepareExecution_admitted accepted'
  rw [admitted.digest, admitted'.digest, Option.some.injEq, JsonValue.string.injEq] at digest
  have texts : Json.canonicalJson (planDigestInput input) =
      Json.canonicalJson (planDigestInput other) := by
    refine free _ ?_ _ ?_ digest
    · rw [admitted.digestTexts]
      exact List.mem_append_left _ List.mem_cons_self
    · rw [admitted'.digestTexts]
      exact List.mem_append_right _ List.mem_cons_self
  refine admitted.same admitted' (planDigestInput_same (Json.canonicalJson_reread ?_ ?_ texts))
  · exact planDigestInput_distinct (unplanned_reads admitted.read) (planRef_distinct distinct)
      distinct
  · exact planDigestInput_distinct (unplanned_reads admitted'.read) (planRef_distinct distinct')
      distinct'

/-- So many times printed canonically and parsed again. The texts are printed from scalar strings
and, in the source, from doubles: none of them is one that `Json.parse` reads otherwise. -/
def roundTrips : Nat → JsonValue → Option JsonValue
  | 0, value => some value
  | n + 1, value => (Json.parse (Json.canonicalJson value)).bind (roundTrips n)

theorem canonicalJson_ofReread (value : JsonValue) :
    Json.canonicalJson value.reread = Json.canonicalJson value := by
  rw [Json.canonicalJson, Json.canonicalChars_reread, ← Json.canonicalJson]

theorem roundTrips_reread (distinct : left.distinctKeys = true) (n : Nat) :
    roundTrips n left.reread = some left.reread := by
  induction n with
  | zero => rfl
  | succ n ih =>
    rw [roundTrips, canonicalJson_ofReread, Json.parse_canonicalJson distinct, Option.bind_some]
    exact ih

theorem roundTrips_accepted (accepted : assertPrepareExecution hash left = .ok ())
    (distinct : left.distinctKeys = true) (n : Nat) : ∃ back, roundTrips n left = some back ∧
      assertPrepareExecution hash back = .ok () := by
  cases n with
  | zero => exact ⟨left, rfl, accepted⟩
  | succ n =>
    refine ⟨left.reread, ?_, ?_⟩
    · rw [roundTrips, Json.parse_canonicalJson distinct, Option.bind_some,
        roundTrips_reread distinct]
    · rw [assertPrepareExecution_reread]
      exact accepted

theorem createPrepareExecution_accepted {input : UnplannedExecution} {prepared : JsonValue}
    (created : createPrepareExecution hash input = .ok prepared) :
    assertPrepareExecution hash prepared = .ok () := by
  obtain ⟨_, accepted, same⟩ := bind_ok.mp created
  rw [← Except.ok.inj same]
  exact accepted

theorem sortedFields_map (fields : List (String × JsonValue)) :
    sortedFields fields = fields.map fun entry => (entry.1, sorted entry.2) := by
  induction fields with
  | nil => rfl
  | cons entry rest ih =>
    obtain ⟨key, value⟩ := entry
    rw [sortedFields, ih, List.map_cons]

theorem get?_sorted (value : JsonValue) (key : String) :
    (sorted value).get? key = (value.get? key).map sorted := by
  cases value with
  | object fields =>
    have moved : ∀ entries : List (String × JsonValue),
        (entries.insertionSort (Json.entryLe Prod.fst)).lookup key = entries.lookup key := by
      intro entries
      rw [lookup_filter, lookup_filter entries, StableSort.filter_insertionSort]
      intro a b first second
      exact Json.entryLe_of_key Prod.fst
        ((of_decide_eq_true first).trans (of_decide_eq_true second).symm)
    rw [sorted, JsonValue.get?, JsonValue.get?, moved, sortedFields_map]
    induction fields with
    | nil => rfl
    | cons entry rest ih =>
      rw [List.map_cons, List.lookup_cons, List.lookup_cons, ih]
      cases key == entry.1 <;> rfl
  | _ => rfl

theorem lookup_optionals (keys : List String) (read : String → Option JsonValue) (key : String) :
    (keys.flatMap fun name => JsonValue.optional name (read name)).lookup key =
      if key ∈ keys then read key else none := by
  induction keys with
  | nil => rfl
  | cons name rest ih =>
    rw [List.flatMap_cons, List.lookup_append, ih]
    by_cases same : key = name
    · subst same
      cases found : read key with
      | none => simp [JsonValue.optional]
      | some value => simp [JsonValue.optional]
    · cases read name <;> simp [JsonValue.optional, List.lookup_cons, beq_false_of_ne same, same]

/-- A persisted reference names the digest of the plan it belongs to. -/
theorem persistedRef_planDigest {value plan : Option JsonValue} {u : Unit} {text : String}
    (persisted : assertPersistedExecutionRef value plan = .ok u)
    (digest : (plan.getD .null).get? "planDigest" = some (.string text)) :
    (value.getD .null).get? "planDigest" = some (.string text) := by
  simp only [assertPersistedExecutionRef, bind_ok, require_ok, isDeepStrictEqual,
    beq_iff_eq] at persisted
  obtain ⟨_, _, _, _, same⟩ := persisted
  have field := congrArg (JsonValue.get? · "planDigest") same
  simp only [get?_sorted] at field
  rw [digest, JsonValue.get?, lookup_optionals, if_pos (by decide)] at field
  cases value with
  | none => cases field
  | some value =>
    rw [Option.bind_some] at field
    cases read : value.get? "planDigest" with
    | none =>
      rw [read] at field
      cases field
    | some found =>
      rw [read, Option.map_some, Option.map_some, Option.some.injEq] at field
      rw [Option.getD_some, read]
      cases found <;> simp [sorted] at field
      rw [field]

/-- The records of a supervisor are parsed objects. -/
def Supervisor.Parsed (supervisor : Supervisor) : Prop :=
  supervisor.prepare.distinctKeys = true ∧ supervisor.planRecord.distinctKeys = true

theorem planDigest_reread {plan other : JsonValue} {text : String}
    (same : plan.reread = other.reread)
    (digest : other.get? "planDigest" = some (.string text)) :
    plan.get? "planDigest" = some (.string text) := by
  have field := congrArg (JsonValue.get? · "planDigest") same
  simp only [get?_reread, digest, Option.map_some, reread] at field
  cases read : plan.get? "planDigest" with
  | none =>
    rw [read] at field
    cases field
  | some found =>
    rw [read, Option.map_some, Option.some.injEq] at field
    cases found <;> simp [reread] at field
    rw [field]

/-- The plan a supervisor was prepared under is the plan of its launch input. -/
theorem assertLaunched_plan {supervisor : Supervisor} {u : Unit}
    (launched : supervisor.assertLaunched hash = .ok u) (parsed : supervisor.Parsed) :
    assertPrepareExecution hash supervisor.prepare = .ok () ∧ ∃ text,
      (planRef supervisor.prepare).get? "planDigest" = some (.string text) ∧
      supervisor.plan.get? "planDigest" = some (.string text) := by
  simp only [Supervisor.assertLaunched, bind_ok, require_ok, Bool.and_eq_true] at launched
  obtain ⟨_, accepted, _, _, plans, _⟩ := launched
  obtain ⟨input, admitted⟩ := assertPrepareExecution_admitted accepted
  refine ⟨accepted, _, admitted.digest, ?_⟩
  have digest := admitted.digest
  rw [planRef] at digest
  cases prepared : supervisor.prepare.get? "plan" with
  | none =>
    rw [prepared] at digest
    cases digest
  | some plan =>
    rw [prepared, Option.getD_some] at digest
    rw [sameText, prepared, Option.map_some, beq_iff_eq, Option.map_eq_some_iff] at plans
    obtain ⟨recorded, found, texts⟩ := plans
    rw [Supervisor.plan, found, Option.getD_some]
    exact planDigest_reread (Json.canonicalJson_reread (get?_distinct parsed.2 found)
      (get?_distinct parsed.1 prepared) texts) digest

/-- A start authority that authenticates a supervisor names the digest of its plan. -/
theorem readAuthority_planDigest {supervisor : Supervisor} {authority : JsonValue} {u : Unit}
    {text : String} (authorized : supervisor.readAuthority hash authority = .ok u)
    (digest : supervisor.plan.get? "planDigest" = some (.string text)) :
    ((authority.get? "execution").getD .null).get? "planDigest" = some (.string text) := by
  simp only [Supervisor.readAuthority, bind_ok] at authorized
  obtain ⟨_, _, _, persisted, _⟩ := authorized
  exact persistedRef_planDigest persisted digest

/-- Manifests of one text are of one plan. -/
theorem manifest_plan {supervisor other : Supervisor}
    (same : Json.canonicalJson (stableManifest (supervisor.manifest hash)) =
      Json.canonicalJson (stableManifest (other.manifest hash))) :
    Json.canonicalJson supervisor.plan = Json.canonicalJson other.plan := by
  have fields (supervisor : Supervisor) : stableManifest (supervisor.manifest hash) =
      .object [("version", .string executionProtocolVersion), ("plan", supervisor.plan),
        ("capabilityDigest",
          .string (executionCapabilityDigest hash supervisor.capability)),
        ("controlDigest", .string (hash.digestJson supervisor.control)),
        ("supervisor", supervisor.identity)] := by
    simp [stableManifest, Supervisor.manifest, JsonValue.get?, JsonValue.optional,
      List.lookup_cons]
  rw [fields, fields, canonicalJson_same] at same
  have perm := Json.object_injective same
  have plan := perm.mem_iff.mp (List.mem_of_getElem? (i := 1) rfl)
  simp [Json.fieldTexts] at plan
  rw [Json.canonicalJson, plan, ← Json.canonicalJson]

theorem plan_distinct {supervisor : Supervisor} (parsed : supervisor.Parsed) :
    supervisor.plan.distinctKeys = true := by
  unfold Supervisor.plan
  cases found : supervisor.planRecord.get? "plan" with
  | none => rfl
  | some plan => exact get?_distinct parsed.2 found

end

/-- The digest of a plan binds the whole launch input up to what canonical text leaves out,
the order of keys and the sign of zero. A created launch input survives any number of round
trips; no other is accepted under its digest; a start authority or a manifest digest
therefore stands for one launch input. -/
theorem planDigest_binds (hash : Hash) :
    (∀ input prepared, createPrepareExecution hash input = .ok prepared →
      prepared.distinctKeys = true → ∀ n, ∃ back, roundTrips n prepared = some back ∧
        assertPrepareExecution hash back = .ok ()) ∧
    (∀ left right, left.distinctKeys = true → right.distinctKeys = true →
      assertPrepareExecution hash left = .ok () → assertPrepareExecution hash right = .ok () →
      (planRef left).get? "planDigest" = (planRef right).get? "planDigest" →
      Integrity.CollisionFree hash (digestTexts left ++ digestTexts right) →
      SameLaunch left right) ∧
    (∀ value changed, value.distinctKeys = true → changed.distinctKeys = true →
      assertPrepareExecution hash value = .ok () →
      (planRef changed).get? "planDigest" = (planRef value).get? "planDigest" →
      Integrity.CollisionFree hash (digestTexts value ++ digestTexts changed) →
      ¬ SameLaunch value changed →
      ∃ failure, assertPrepareExecution hash changed = .error failure) ∧
    (∀ (supervisor other : Supervisor) (authority : JsonValue),
      supervisor.Parsed → other.Parsed → supervisor.assertLaunched hash = .ok () →
      other.assertLaunched hash = .ok () → supervisor.readAuthority hash authority = .ok () →
      other.readAuthority hash authority = .ok () →
      Integrity.CollisionFree hash
        (digestTexts supervisor.prepare ++ digestTexts other.prepare) →
      SameLaunch supervisor.prepare other.prepare) ∧
    ∀ supervisor other : Supervisor, supervisor.Parsed → other.Parsed →
      supervisor.assertLaunched hash = .ok () → other.assertLaunched hash = .ok () →
      executionManifestDigest hash (supervisor.manifest hash) =
        executionManifestDigest hash (other.manifest hash) →
      Integrity.CollisionFree hash
        [Json.canonicalJson (stableManifest (supervisor.manifest hash)),
          Json.canonicalJson (stableManifest (other.manifest hash))] →
      Integrity.CollisionFree hash
        (digestTexts supervisor.prepare ++ digestTexts other.prepare) →
      SameLaunch supervisor.prepare other.prepare := by
  refine ⟨?_, ?_, ?_, ?_, ?_⟩
  · intro input prepared created distinct n
    exact roundTrips_accepted (createPrepareExecution_accepted created) distinct n
  · intro left right distinct distinct' accepted accepted' digest free
    exact planDigest_sameLaunch accepted accepted' distinct distinct' digest free
  · intro value changed distinct distinct' accepted digest free differ
    cases outcome : assertPrepareExecution hash changed with
    | error failure => exact ⟨failure, rfl⟩
    | ok u =>
      exact absurd (planDigest_sameLaunch accepted outcome distinct distinct' digest.symm free)
        differ
  · intro supervisor other authority parsed parsed' launched launched' authorized authorized' free
    obtain ⟨accepted, text, digest, recorded⟩ := assertLaunched_plan launched parsed
    obtain ⟨accepted', text', digest', recorded'⟩ := assertLaunched_plan launched' parsed'
    have named := readAuthority_planDigest authorized recorded
    rw [readAuthority_planDigest authorized' recorded'] at named
    refine planDigest_sameLaunch accepted accepted' parsed.1 parsed'.1 ?_ free
    rw [digest, digest', named]
  · intro supervisor other parsed parsed' launched launched' manifests freeManifests free
    obtain ⟨accepted, text, digest, recorded⟩ := assertLaunched_plan launched parsed
    obtain ⟨accepted', text', digest', recorded'⟩ := assertLaunched_plan launched' parsed'
    have texts := freeManifests _ List.mem_cons_self _
      (List.mem_cons_of_mem _ List.mem_cons_self) manifests
    have same := Json.canonicalJson_reread (plan_distinct parsed) (plan_distinct parsed')
      (manifest_plan texts)
    refine planDigest_sameLaunch accepted accepted' parsed.1 parsed'.1 ?_ free
    rw [digest, digest', ← recorded, planDigest_reread same recorded']

mutual
/-- A bound on the bytes of a value that is read off the value itself. -/
def roughBytes : JsonValue → Nat
  | .null | .bool _ => 5
  | .number value => (Json.numberChars value).length
  | .string value => 2 + 6 * value.toList.length
  | .array items => 2 + roughItems items
  | .object fields => 2 + roughFields fields
def roughItems : List JsonValue → Nat
  | [] => 0
  | item :: rest => roughBytes item + 1 + roughItems rest
def roughFields : List (String × JsonValue) → Nat
  | [] => 0
  | (key, value) :: rest => 2 + 6 * key.toList.length + 2 + roughBytes value + roughFields rest
end

theorem string_rough (s : String) : Json.byteLength (.string s) ≤ 2 + 6 * s.toList.length := by
  have bound := @Json.byteLength_ofList_le s.toList _ (Nat.le_refl _)
  rwa [String.ofList_toList] at bound

mutual
theorem byteLength_rough : (value : JsonValue) → Json.byteLength value ≤ roughBytes value
  | .null | .bool true | .bool false => by decide
  | .number value => by rw [Json.byteLength_number, roughBytes]
  | .string value => by rw [roughBytes]; exact string_rough value
  | .array items => by
    have sum := items_rough items
    rw [Json.byteLength_array, roughBytes]
    omega
  | .object fields => by
    have sum := fields_rough fields
    rw [Json.byteLength_object, roughBytes]
    omega
theorem items_rough : (items : List JsonValue) →
    (items.map Json.byteLength).sum + (items.length - 1) ≤ roughItems items
  | [] => Nat.le_refl _
  | item :: rest => by
    have head := byteLength_rough item
    have tail := items_rough rest
    rw [List.map_cons, List.sum_cons, List.length_cons, roughItems]
    omega
theorem fields_rough : (fields : List (String × JsonValue)) →
    (fields.map Json.memberLength).sum + (fields.length - 1) ≤ roughFields fields
  | [] => Nat.le_refl _
  | (key, value) :: rest => by
    have head := byteLength_rough value
    have tail := fields_rough rest
    have name := string_rough key
    rw [List.map_cons, List.sum_cons, List.length_cons, Json.memberLength, roughFields]
    dsimp only
    omega
end

namespace Sample

def zeroDigest : String := "sha256:0000000000000000000000000000000000000000000000000000000000000000"

def oneDigest : String := "sha256:1111111111111111111111111111111111111111111111111111111111111111"

def coordinator : JsonValue :=
  .object [("version", .string "anastom.dev/local-process/v1alpha1"),
    ("hostIdentityDigest", .string zeroDigest), ("bootIdentityDigest", .string zeroDigest),
    ("pid", .nat 1), ("startToken", .string "t")]

def descriptor : JsonValue :=
  .object [("version", .string "anastom.dev/runtime-descriptor/v1alpha1"),
    ("runtimeId", .string "pi"), ("configurationVersion", .string "1"),
    ("configuration", .object [])]

/-- A request whose output schema holds a negative zero. -/
def request : JsonValue :=
  .object [("attempt", .nat 1), ("budget", .object [("maxAttempts", .nat 1)]),
    ("context", .object [("dependencyOutputs", .object []), ("inputs", .object [])]),
    ("nodeId", .string "node"), ("nodeKind", .string "agent"),
    ("requiredOutputSchema", .object [("minimum", .number ⟨true, 0, 0, JsonNumber.zero_normal⟩)]),
    ("runId", .string "run"), ("toolPolicy", .object [("allowMutations", .bool false)]),
    ("workflowInstanceId", .string "workflow"),
    ("workspace", .object [("id", .string "w"), ("mode", .string "memory")])]

def input (execution : String) : UnplannedExecution where
  runId := .string "run"
  executionId := .string execution
  generation := .nat 1
  coordinator := coordinator
  launch := .runtime descriptor request

def plan (execution : String) : JsonValue :=
  .object [("version", .string "anastom.dev/owned-execution/v1alpha1"), ("runId", .string "run"),
    ("executionId", .string execution), ("kind", .string "runtime"), ("generation", .nat 1),
    ("planDigest", .string zeroDigest)]

def prepare (execution : String) : JsonValue :=
  .object [("plan", plan execution), ("coordinator", coordinator), ("descriptor", descriptor),
    ("request", request)]

def first : String := "00000000-0000-4000-8000-000000000000"
def second : String := "00000000-0000-4000-8000-000000000001"

theorem plan_get (execution : String) : (planRef (prepare execution)) = plan execution := by
  simp [planRef, prepare, get?]

theorem plan_digest (execution : String) :
    (plan execution).get? "planDigest" = some (.string zeroDigest) := by
  simp [plan, get?, List.lookup_cons]

theorem unplanned_prepare (execution : String) :
    unplanned (plan execution) (prepare execution) = some (input execution) := by
  simp [unplanned, prepare, plan, input, get?, List.lookup_cons, launchOf, stringIn]

def identity : JsonValue :=
  .object [("version", .string "anastom.dev/local-process/v1alpha1"),
    ("hostIdentityDigest", .string zeroDigest), ("bootIdentityDigest", .string zeroDigest),
    ("pid", .nat 1), ("startToken", .string "t"), ("processGroupId", .nat 1),
    ("state", .string "S")]

/-- What evaluation says about the sample, in one theorem so that it is evaluated in turn. -/
theorem checks : (Text.digest zeroDigest = true ∧ Text.digest oneDigest = true ∧
      Text.identifier "run" = true ∧ Text.uuid first = true) ∧
    (roughBytes request ≤ maxExecutionRequestBytes ∧
      roughBytes descriptor ≤ maxRuntimeDescriptorBytes ∧
      roughBytes (prepare first) ≤ 4 * 1024 * 1024) ∧
    runtimeDescriptorValidator descriptor = true ∧
    (assertExecutionPlanRef (some (plan first)) = .ok () ∧
      assertLocalProcessIdentity (some coordinator) = .ok () ∧
      assertPrivateProcessIdentity (some identity) = .ok ()) ∧
    (joinedKeys (prepare first) = "coordinator,descriptor,plan,request" ∧
      ",".intercalate (sortKeys ["version", "runId", "executionId", "kind", "generation",
        "planDigest", "manifestDigest"]) =
        "executionId,generation,kind,manifestDigest,planDigest,runId,version") ∧
    coordinator.distinctKeys = true ∧ descriptor.distinctKeys = true ∧
    request.distinctKeys = true := by
  decide +kernel

theorem chosen_valid {condition : Prop} [Decidable condition] :
    Text.digest (if condition then zeroDigest else oneDigest) = true := by
  split
  · exact checks.1.1
  · exact checks.1.2.1

/-- A hash under which only the first execution has the plan digest. -/
def hash : Hash where
  digestBytes text :=
    if text = Json.canonicalJson (planDigestInput (input first)) then zeroDigest else oneDigest
  wellFormed _ := chosen_valid

theorem first_digest : hash.digestJson (planDigestInput (input first)) = zeroDigest := by
  simp only [Hash.digestJson, hash, if_true]

theorem request_valid : assertExecutionRequest request = .ok () := by
  have bytes := Nat.le_trans (byteLength_rough request) checks.2.1.1
  simp only [assertExecutionRequest, require_ok, Bool.and_eq_true, decide_eq_true_iff]
  refine ⟨⟨⟨⟨⟨⟨⟨⟨⟨⟨⟨⟨⟨?_, ?_⟩, ?_⟩, ?_⟩, ?_⟩, ?_⟩, ?_⟩, ?_⟩, ?_⟩, ?_⟩, ?_⟩, ?_⟩, ?_⟩, bytes⟩
  all_goals decide +kernel

theorem descriptor_valid : assertRuntimeDescriptor descriptor = .ok () := by
  have bytes := Nat.le_trans (byteLength_rough descriptor) checks.2.1.2.1
  simp only [assertRuntimeDescriptor, bind_ok, require_ok, decide_eq_true_iff]
  exact ⟨(), checks.2.2.1, bytes⟩

theorem plan_valid : assertExecutionPlanRef (some (plan first)) = .ok () := checks.2.2.2.1.1

theorem coordinator_valid : assertLocalProcessIdentity (some coordinator) = .ok () :=
  checks.2.2.2.1.2.1

theorem first_accepted : assertPrepareExecution hash (prepare first) = .ok () := by
  have keys := checks.2.2.2.2.1.1
  have bytes := Nat.le_trans (byteLength_rough (prepare first)) checks.2.1.2.2
  have run : sameString (request.get? "runId") ((plan first).get? "runId") = true := by
    simp [request, plan, get?, List.lookup_cons, sameString]
  have launch : launchOf ((plan first).get? "kind") (prepare first) =
      some (.runtime descriptor request) := by
    simp [prepare, plan, get?, List.lookup_cons, launchOf, stringIn]
  have fields : (prepare first).get? "plan" = some (plan first) ∧
      (prepare first).get? "coordinator" = some coordinator ∧
      (plan first).get? "planDigest" = some (.string zeroDigest) := by
    simp [prepare, plan, get?, List.lookup_cons]
  simp only [assertPrepareExecution, bind_ok, require_ok, requireSome_ok, decide_eq_true_iff,
    fields, Option.getD_some, launch, unplanned_prepare]
  refine ⟨(), rfl, (), plan_valid, (), coordinator_valid, _, rfl, (), ?_, _, rfl, (), ?_, bytes⟩
  · simp only [assertLaunch, bind_ok, require_ok, keys, descriptor_valid, request_valid, run]
    simp
  · rw [first_digest, sameString, beq_self_eq_true]

theorem plan_distinctKeys (execution : String) : (plan execution).distinctKeys = true :=
  distinctKeys_object ["version", "runId", "executionId", "kind", "generation", "planDigest"]
    rfl (by decide) rfl

theorem prepare_distinct (execution : String) : (prepare execution).distinctKeys = true := by
  refine distinctKeys_object ["plan", "coordinator", "descriptor", "request"] rfl (by decide) ?_
  have others := checks.2.2.2.2.2
  simp only [distinctKeysFields, plan_distinctKeys, others]
  rfl

theorem second_digest : hash.digestJson (planDigestInput (input second)) = oneDigest := by
  have different : Json.canonicalJson (planDigestInput (input second)) ≠
      Json.canonicalJson (planDigestInput (input first)) := by
    intro same
    have distinct (execution : String) :
        (planDigestInput (input execution)).distinctKeys = true :=
      planDigestInput_distinct (unplanned_reads (unplanned_prepare execution))
        (plan_get execution ▸ planRef_distinct (prepare_distinct execution))
        (prepare_distinct execution)
    have fields := planDigestInput_same
      (Json.canonicalJson_reread (distinct second) (distinct first) same)
    simp [UnplannedExecution.reread, input, reread] at fields
    exact absurd fields (by decide)
  simp only [Hash.digestJson, hash, if_neg different]

theorem prepareOf_first : prepareOf hash (input first) = prepare first := by
  rw [prepareOf, planOf, first_digest]
  rfl

theorem digestTexts_prepare (execution : String) : digestTexts (prepare execution) =
    [Json.canonicalJson (planDigestInput (input execution))] := by
  rw [digestTexts, plan_get, unplanned_prepare]
  rfl

theorem prepares_free : Integrity.CollisionFree hash
    (digestTexts (prepare first) ++ digestTexts (prepare second)) := by
  have apart : zeroDigest ≠ oneDigest := by decide
  have firstDigest := first_digest
  have secondDigest := second_digest
  rw [Hash.digestJson] at firstDigest secondDigest
  rw [digestTexts_prepare, digestTexts_prepare]
  intro left leftMember right rightMember same
  simp only [List.cons_append, List.nil_append, List.mem_cons, List.not_mem_nil, or_false]
    at leftMember rightMember
  rcases leftMember with rfl | rfl <;> rcases rightMember with rfl | rfl
  · rfl
  · rw [firstDigest, secondDigest] at same
    exact absurd same apart
  · rw [firstDigest, secondDigest] at same
    exact absurd same.symm apart
  · rfl

theorem executions_differ : ¬ SameLaunch (prepare first) (prepare second) := by
  intro same
  have field := same.plan "executionId" (by simp)
  rw [AlikeAt, plan_get, plan_get] at field
  simp [plan, get?, List.lookup_cons, reread] at field
  exact absurd field (by decide)

def supervisor : Supervisor where
  prepare := prepare first
  planRecord := .object [("version", .string executionProtocolVersion), ("plan", plan first),
    ("coordinator", coordinator)]
  identity := identity
  capability := "capability"
  endpoint := "/socket"
  state := "awaiting-start"

/-- A persisted reference with any manifest digest. -/
def reference (manifestDigest : String) : JsonValue :=
  .object [("version", .string "anastom.dev/owned-execution/v1alpha1"), ("runId", .string "run"),
    ("executionId", .string first), ("kind", .string "runtime"), ("generation", .nat 1),
    ("planDigest", .string zeroDigest), ("manifestDigest", .string manifestDigest)]

/-- A start authority of the supervisor with any digests. -/
def authority (manifestDigest capabilityDigest : String) : JsonValue :=
  .object [("version", .string executionProtocolVersion),
    ("execution", reference manifestDigest), ("capabilityDigest", .string capabilityDigest),
    ("supervisor", identity)]

theorem supervisor_parsed : supervisor.Parsed := by
  refine ⟨prepare_distinct first, ?_⟩
  refine distinctKeys_object ["version", "plan", "coordinator"] rfl (by decide) ?_
  simp only [distinctKeysFields, plan_distinctKeys, checks.2.2.2.2.2.1]
  rfl

theorem supervisor_launched : supervisor.assertLaunched hash = .ok () := by
  have fields : supervisor.planRecord.get? "plan" = some (plan first) ∧
      supervisor.planRecord.get? "coordinator" = some coordinator ∧
      supervisor.planRecord.get? "version" = some (.string executionProtocolVersion) ∧
      supervisor.prepare.get? "plan" = some (plan first) ∧
      supervisor.prepare.get? "coordinator" = some coordinator := by
    simp [supervisor, prepare, get?, List.lookup_cons]
  have keys : supervisor.planRecord.exactKeys ["coordinator", "plan", "version"] = true :=
    exactKeys_object ["version", "plan", "coordinator"] _ rfl (by decide)
  have record : supervisor.planRecord.isRecord = true := rfl
  have recorded : assertExecutionPlanRecord supervisor.planRecord = .ok () := by
    simp [assertExecutionPlanRecord, fields, keys, record, stringIn, plan_valid,
      coordinator_valid, require, bind, Except.bind]
  simp only [Supervisor.assertLaunched, bind_ok, require_ok, fields, sameText, beq_self_eq_true,
    Bool.and_self]
  exact ⟨(), first_accepted, (), recorded, trivial⟩

theorem reference_fields (manifestDigest : String) :
    (reference manifestDigest).get? "version" =
      some (.string "anastom.dev/owned-execution/v1alpha1") ∧
    (reference manifestDigest).get? "runId" = some (.string "run") ∧
    (reference manifestDigest).get? "executionId" = some (.string first) ∧
    (reference manifestDigest).get? "kind" = some (.string "runtime") ∧
    (reference manifestDigest).get? "generation" = some (.nat 1) ∧
    (reference manifestDigest).get? "planDigest" = some (.string zeroDigest) ∧
    (reference manifestDigest).get? "manifestDigest" = some (.string manifestDigest) := by
  simp [reference, get?, List.lookup_cons]

theorem reference_valid {manifestDigest : String} (digest : Text.digest manifestDigest = true) :
    assertExecutionPlanRef (some (reference manifestDigest)) = .ok () := by
  have keys : joinedKeys (reference manifestDigest) =
      "executionId,generation,kind,manifestDigest,planDigest,runId,version" := by
    have names : (reference manifestDigest).keys = ["version", "runId", "executionId", "kind",
        "generation", "planDigest", "manifestDigest"] := rfl
    rw [joinedKeys, names]
    exact checks.2.2.2.2.1.2
  have patterns := checks.1
  have generation : isPositive (.nat 1) = true := by decide
  have object : isObject (reference manifestDigest) = true := rfl
  have fields := reference_fields manifestDigest
  simp [assertExecutionPlanRef, requireSome, fields, keys, object, stringIn, testPattern, text,
    patterns, generation, digest, require, bind, Except.bind]

theorem authority_fields (manifestDigest capabilityDigest : String) :
    (authority manifestDigest capabilityDigest).get? "version" =
      some (.string executionProtocolVersion) ∧
    (authority manifestDigest capabilityDigest).get? "execution" =
      some (reference manifestDigest) ∧
    (authority manifestDigest capabilityDigest).get? "capabilityDigest" =
      some (.string capabilityDigest) ∧
    (authority manifestDigest capabilityDigest).get? "supervisor" = some identity := by
  simp [authority, get?, List.lookup_cons]

theorem authority_started {manifestDigest capabilityDigest : String}
    (digest : Text.digest manifestDigest = true)
    (capability : Text.digest capabilityDigest = true) :
    assertExecutionStartAuthority (authority manifestDigest capabilityDigest) = .ok () := by
  have process := checks.2.2.2.1.2.2
  have keys : (authority manifestDigest capabilityDigest).exactKeys
      ["capabilityDigest", "execution", "supervisor", "version"] = true :=
    exactKeys_object ["version", "execution", "capabilityDigest", "supervisor"] _ rfl (by decide)
  have record : (authority manifestDigest capabilityDigest).isRecord = true := rfl
  simp [assertExecutionStartAuthority, authority_fields, keys, record, stringIn, stringWhere,
    capability, reference_valid digest, process, require, bind, Except.bind]

theorem reference_persisted {manifestDigest : String}
    (digest : Text.digest manifestDigest = true) :
    assertPersistedExecutionRef (some (reference manifestDigest)) (some (plan first)) =
      .ok () := by
  have fields : (planFields.flatMap fun key =>
      JsonValue.optional key ((reference manifestDigest).get? key)) =
        [("version", .string "anastom.dev/owned-execution/v1alpha1"), ("runId", .string "run"),
          ("executionId", .string first), ("kind", .string "runtime"), ("generation", .nat 1),
          ("planDigest", .string zeroDigest)] := by
    simp [planFields, reference_fields, JsonValue.optional]
  simp only [assertPersistedExecutionRef, bind_ok, require_ok, Option.bind_some,
    Option.getD_some, fields]
  exact ⟨(), reference_valid digest, (), plan_valid, beq_self_eq_true _⟩

theorem authority_read : supervisor.readAuthority hash
    (authority (executionManifestDigest hash (supervisor.manifest hash))
      (executionCapabilityDigest hash supervisor.capability)) = .ok () := by
  have recorded : supervisor.planRecord.get? "plan" = some (plan first) := by
    simp [supervisor, get?, List.lookup_cons]
  have manifest : Text.digest (executionManifestDigest hash (supervisor.manifest hash)) =
      true := by
    rw [executionManifestDigest]
    exact hash.wellFormed _
  have capability : Text.digest (executionCapabilityDigest hash supervisor.capability) = true := by
    rw [executionCapabilityDigest]
    exact hash.wellFormed _
  rw [Supervisor.readAuthority]
  generalize executionManifestDigest hash (supervisor.manifest hash) = manifestDigest at *
  generalize executionCapabilityDigest hash supervisor.capability = capabilityDigest at *
  simp only [bind_ok, require_ok, Bool.and_eq_true, authority_fields, recorded,
    Option.getD_some, reference_fields]
  refine ⟨(), authority_started manifest capability, (), reference_persisted manifest, ⟨?_, ?_⟩,
    ?_⟩
  · rw [sameString, beq_self_eq_true]
  · rw [sameString, beq_self_eq_true]
  · rw [sameText]
    exact beq_self_eq_true _

end Sample

/-- Two accepted launch inputs with one plan digest may differ in the sign of a zero. -/
theorem signedZero_unbound : ¬ ∀ (hash : Hash) (left right : JsonValue),
    left.distinctKeys = true → right.distinctKeys = true →
    assertPrepareExecution hash left = .ok () → assertPrepareExecution hash right = .ok () →
    (planRef left).get? "planDigest" = (planRef right).get? "planDigest" →
    Integrity.CollisionFree hash (digestTexts left ++ digestTexts right) →
    (left.get? "request").map sorted = (right.get? "request").map sorted := by
  intro bound
  have distinct := Sample.prepare_distinct Sample.first
  have accepted := Sample.first_accepted
  have rereadDistinct := reread_distinct distinct
  have rereadPlan : planRef (Sample.prepare Sample.first).reread =
      (planRef (Sample.prepare Sample.first)).reread := by
    rw [planRef, get?_reread, getD_reread, ← planRef]
  have digests : (planRef (Sample.prepare Sample.first)).get? "planDigest" =
      (planRef (Sample.prepare Sample.first).reread).get? "planDigest" := by
    rw [rereadPlan, get?_reread, Sample.plan_get, Sample.plan_digest,
      Option.map_some, reread]
  have texts : digestTexts (Sample.prepare Sample.first).reread =
      digestTexts (Sample.prepare Sample.first) := by
    rw [digestTexts, digestTexts, rereadPlan, unplanned_reread, Sample.plan_get,
      Sample.unplanned_prepare, Option.map_some, Option.toList_some, Option.toList_some,
      List.map_singleton, List.map_singleton, planDigestInput_reread]
  have free : Integrity.CollisionFree Sample.hash (digestTexts (Sample.prepare Sample.first) ++
      digestTexts (Sample.prepare Sample.first).reread) := by
    rw [texts, Sample.digestTexts_prepare]
    intro left leftMember right rightMember _
    rw [List.mem_append, or_self, List.mem_singleton] at leftMember rightMember
    rw [leftMember, rightMember]
  have same := bound Sample.hash _ _ distinct rereadDistinct accepted
    ((assertPrepareExecution_reread _ _).trans accepted) digests free
  have request : (Sample.prepare Sample.first).get? "request" = some Sample.request := by
    simp [Sample.prepare, get?, List.lookup_cons]
  rw [get?_reread, request, Option.map_some, Option.map_some, Option.map_some,
    Option.some.injEq] at same
  have schema := congrArg (JsonValue.get? · "requiredOutputSchema") same
  have held : Sample.request.get? "requiredOutputSchema" =
      some (.object [("minimum", .number ⟨true, 0, 0, JsonNumber.zero_normal⟩)]) := by
    simp [Sample.request, get?, List.lookup_cons]
  simp only [get?_sorted, get?_reread, held, Option.map_some, Option.some.injEq] at schema
  have minimum := congrArg (JsonValue.get? · "minimum") schema
  simp only [get?_sorted, get?_reread] at minimum
  simp [get?, reread, sorted, JsonNumber.parsed] at minimum

/-- One execution, launched under its own digest and under no other's. -/
theorem sample_bound :
    (∃ back, roundTrips 2 (prepareOf Sample.hash (Sample.input Sample.first)) = some back ∧
      assertPrepareExecution Sample.hash back = .ok ()) ∧
    (∃ failure, assertPrepareExecution Sample.hash (Sample.prepare Sample.second) =
      .error failure) ∧
    SameLaunch Sample.supervisor.prepare Sample.supervisor.prepare := by
  have distinct := Sample.prepare_distinct Sample.first
  have accepted := Sample.first_accepted
  have alone : Integrity.CollisionFree Sample.hash
      (digestTexts Sample.supervisor.prepare ++ digestTexts Sample.supervisor.prepare) :=
    Sample.prepares_free.subset fun text member =>
      List.mem_append_left _ (List.mem_append.mp member |>.elim id id)
  have manifests : Integrity.CollisionFree Sample.hash
      [Json.canonicalJson (stableManifest (Sample.supervisor.manifest Sample.hash)),
        Json.canonicalJson (stableManifest (Sample.supervisor.manifest Sample.hash))] := by
    intro left leftMember right rightMember _
    simp only [List.mem_cons, List.not_mem_nil, or_false, or_self] at leftMember rightMember
    rw [leftMember, rightMember]
  obtain ⟨created, bound, changed, authorized, stated⟩ := planDigest_binds Sample.hash
  refine ⟨created (Sample.input Sample.first) _ ?_ ?_ 2, ?_, ?_⟩
  · rw [createPrepareExecution, Sample.prepareOf_first, accepted]
    rfl
  · rw [Sample.prepareOf_first]
    exact distinct
  · exact changed _ _ distinct (Sample.prepare_distinct Sample.second) accepted
      (by rw [Sample.plan_get, Sample.plan_get, Sample.plan_digest, Sample.plan_digest])
      Sample.prepares_free Sample.executions_differ
  · have supervised := And.intro
      (bound _ _ distinct distinct accepted accepted rfl alone)
      (stated _ _ Sample.supervisor_parsed Sample.supervisor_parsed Sample.supervisor_launched
        Sample.supervisor_launched rfl manifests alone)
    exact authorized _ _ _ Sample.supervisor_parsed Sample.supervisor_parsed
      Sample.supervisor_launched Sample.supervisor_launched Sample.authority_read
      Sample.authority_read alone

end LaunchRecord
end Anastom
