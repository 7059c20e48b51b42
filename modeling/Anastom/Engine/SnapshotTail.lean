import Anastom.Engine.SnapshotState
import Anastom.Engine.StartEvidence
import Mathlib.Data.List.Pairwise

/-! Applying later events to a re-read snapshot gives the same run as a full replay: the
reducer sees nothing of what canonical text loses. -/
namespace Anastom
open RunEventPayload Json

structure NodeRunState.Same (node other : NodeRunState) : Prop where
  fields : ∃ output command, other = { node with output, command }
  output : other.output.map canonicalChars = node.output.map canonicalChars
  command : other.command.map (fun report => canonicalChars report.toJson) =
    node.command.map fun report => canonicalChars report.toJson

/-- States that differ in the order of their nodes and in values with one text. -/
structure RunState.Same (state other : RunState) : Prop where
  fields : ∃ inputs nodes runtimeDescriptor,
    other = { state with inputs, nodes, runtimeDescriptor }
  inputs : canonicalChars (.object other.inputs) = canonicalChars (.object state.inputs)
  runtime : other.runtimeDescriptor.map RuntimeDescriptor.runtimeId =
    state.runtimeDescriptor.map RuntimeDescriptor.runtimeId
  descriptor : other.runtimeDescriptor.map (fun descriptor => canonicalChars descriptor.toJson) =
    state.runtimeDescriptor.map fun descriptor => canonicalChars descriptor.toJson
  distinct : Keyed.Distinct state.nodes ∧ Keyed.Distinct other.nodes
  nodes : ∀ id, Option.Rel NodeRunState.Same (state.node? id) (other.node? id)

theorem rel_some {α β : Type} {R : α → β → Prop} {a : α} {b : Option β}
    (related : Option.Rel R (some a) b) : ∃ value, b = some value ∧ R a value := by
  cases related with
  | some holds => exact ⟨_, rfl, holds⟩

theorem rel_flip {α β : Type} {R : α → β → Prop} {S : β → α → Prop} {a : Option α} {b : Option β}
    (flip : ∀ {a b}, R a b → S b a) (related : Option.Rel R a b) : Option.Rel S b a := by
  cases related with
  | none => exact .none
  | some holds => exact .some (flip holds)

theorem rel_map {α β : Type} {R : α → β → Prop} {f : α → α} {g : β → β} {a : Option α} {b : Option β}
    (lift : ∀ {a b}, R a b → R (f a) (g b)) (related : Option.Rel R a b) :
    Option.Rel R (a.map f) (b.map g) := by
  cases related with
  | none => exact .none
  | some holds => exact .some (lift holds)

theorem NodeRunState.Same.symm {node other : NodeRunState} (same : node.Same other) :
    other.Same node := by
  obtain ⟨⟨output, command, rfl⟩, texts, reports⟩ := same
  exact ⟨⟨node.output, node.command, rfl⟩, texts.symm, reports.symm⟩

namespace RunState.Same
variable {state other next : RunState}

theorem symm (same : state.Same other) : other.Same state := by
  obtain ⟨⟨inputs, nodes, descriptor, rfl⟩, texts, runtime, descriptors, distinct, each⟩ := same
  exact ⟨⟨state.inputs, state.nodes, state.runtimeDescriptor, rfl⟩, texts.symm, runtime.symm,
    descriptors.symm, distinct.symm, fun id => rel_flip (fun same => same.symm) (each id)⟩

theorem node (same : state.Same other) {id : String} {node : NodeRunState}
    (found : state.node? id = some node) : ∃ twin, other.node? id = some twin ∧ node.Same twin := by
  have related := same.nodes id
  rw [found] at related
  exact rel_some related

/-- A property of nodes that ignores what text loses holds of all nodes in both states. -/
theorem all (same : state.Same other) {P : NodeRunState → Prop}
    (respects : ∀ {node twin}, node.Same twin → P node → P twin)
    (each : ∀ node ∈ state.nodes, P node) : ∀ node ∈ other.nodes, P node := by
  intro twin member
  obtain ⟨node, found, twins⟩ := same.symm.node (Keyed.find_of_mem same.distinct.2 member)
  exact respects twins.symm (each node (Keyed.find_mem found))

theorem exists_node (same : state.Same other) {P : NodeRunState → Prop}
    (respects : ∀ {node twin}, node.Same twin → P node → P twin)
    (some_node : ∃ node ∈ state.nodes, P node) : ∃ node ∈ other.nodes, P node := by
  obtain ⟨node, member, holds⟩ := some_node
  obtain ⟨twin, found, twins⟩ := same.node (Keyed.find_of_mem same.distinct.1 member)
  exact ⟨twin, Keyed.find_mem found, respects twins holds⟩

end RunState.Same

theorem scheduledRuntimeMatches_map (state : RunState) (runtimeId : String) :
    scheduledRuntimeMatches state runtimeId = (runtimeId == "command" ||
      (state.runtimeDescriptor.map RuntimeDescriptor.runtimeId).all fun other =>
        other == runtimeId) := by
  cases set : state.runtimeDescriptor <;> simp [scheduledRuntimeMatches, set]

/-- A node's guard ignores what text loses. -/
theorem nodeGuard_same {payload : RunEventPayload} {state other : RunState}
    {node twin : NodeRunState} (same : state.Same other) (twins : node.Same twin)
    (guard : payload.nodeGuard state node) : payload.nodeGuard other twin := by
  obtain ⟨⟨inputs, nodes, descriptor, rfl⟩, _, runtime, _⟩ := same
  obtain ⟨⟨output, command, rfl⟩, _⟩ := twins
  cases payload
  case attemptScheduled nodeId number runtimeId =>
    refine ⟨guard.1, guard.2.1, ?_⟩
    rw [scheduledRuntimeMatches_map, runtime, ← scheduledRuntimeMatches_map]
    exact guard.2.2
  case attemptPrepared nodeId number execution checkpoint =>
    obtain ⟨ready, attempt, current, allowed⟩ := guard
    refine ⟨ready, attempt, current, allowed.runId, allowed.generation, allowed.workspace,
      allowed.kind, fun agent => ?_, allowed.artifact⟩
    obtain ⟨before, set, fits⟩ := allowed.runtime agent
    rw [set] at runtime
    obtain ⟨after, set', same⟩ := Option.map_eq_some_iff.mp runtime
    exact ⟨after, set', same.trans fits⟩
  case attemptStarted nodeId number =>
    refine ⟨guard.1, ?_, guard.2.2⟩
    rw [guard.2.1] at runtime
    exact Option.map_eq_none_iff.mp runtime
  case nodePaused nodeId reason => cases reason <;> exact guard
  all_goals exact guard

/-- The first attempt with an execution is the only one. -/
def RunState.UniqueExecutions (state : RunState) : Prop :=
  ∀ {id id' node node' attempt attempt' plan plan'}, state.node? id = some node →
    state.node? id' = some node' → node.current = some attempt → node'.current = some attempt' →
    attempt.executionPlan = some plan → attempt'.executionPlan = some plan' →
    plan.executionId = plan'.executionId → id = id'

theorem attemptOfExecution_iff {state : RunState} (distinct : Keyed.Distinct state.nodes)
    (unique : state.UniqueExecutions) {executionId : String} {attempt : AttemptState} :
    state.attemptOfExecution executionId = some attempt ↔
      ∃ id node plan, state.node? id = some node ∧ node.current = some attempt ∧
        attempt.executionPlan = some plan ∧ plan.executionId = executionId := by
  unfold RunState.attemptOfExecution
  constructor
  · intro found
    have owns := List.find?_some found
    obtain ⟨node, member, current⟩ := List.mem_filterMap.mp (List.mem_of_find?_eq_some found)
    obtain ⟨plan, set, same⟩ := (Option.any_eq_true _ _).mp owns
    exact ⟨node.id, node, plan, Keyed.find_of_mem distinct member, current, set, by simpa using same⟩
  · rintro ⟨id, node, plan, found, current, set, rfl⟩
    have present : attempt ∈ state.nodes.filterMap NodeRunState.current :=
      List.mem_filterMap.mpr ⟨node, Keyed.find_mem found, current⟩
    cases first : (state.nodes.filterMap NodeRunState.current).find? fun attempt =>
        attempt.executionPlan.any fun other => other.executionId == plan.executionId with
    | none =>
      have absent := List.find?_eq_none.mp first attempt present
      simp [set] at absent
    | some other =>
      have owns := List.find?_some first
      obtain ⟨node', member, current'⟩ := List.mem_filterMap.mp (List.mem_of_find?_eq_some first)
      obtain ⟨plan', set', same⟩ := (Option.any_eq_true _ _).mp owns
      have found' : state.node? node'.id = some node' := Keyed.find_of_mem distinct member
      have ids : id = node'.id := unique found found' current current' set set' (beq_iff_eq.mp same).symm
      rw [← ids, found, Option.some.injEq] at found'
      rw [← found', current] at current'
      exact current'.symm

theorem NodeRunState.Same.current {node twin : NodeRunState} (twins : node.Same twin) :
    twin.current = node.current := by
  obtain ⟨⟨output, command, rfl⟩, _⟩ := twins
  rfl

theorem NodeRunState.Same.status {node twin : NodeRunState} (twins : node.Same twin) :
    twin.status = node.status := by
  obtain ⟨⟨output, command, rfl⟩, _⟩ := twins
  rfl

theorem NodeRunState.Same.attempts {node twin : NodeRunState} (twins : node.Same twin) :
    twin.attempts = node.attempts := by
  obtain ⟨⟨output, command, rfl⟩, _⟩ := twins
  rfl

theorem NodeRunState.Same.id {node twin : NodeRunState} (twins : node.Same twin) :
    twin.id = node.id := by
  obtain ⟨⟨output, command, rfl⟩, _⟩ := twins
  rfl

namespace RunState.Same
variable {state other : RunState}

theorem uniqueExecutions (same : state.Same other) (unique : state.UniqueExecutions) :
    other.UniqueExecutions := by
  intro id id' twin twin' attempt attempt' plan plan' found found' current current'
  obtain ⟨node, present, twins⟩ := same.symm.node found
  obtain ⟨node', present', twins'⟩ := same.symm.node found'
  exact unique present present' (twins.current.trans current) (twins'.current.trans current')

theorem attemptOfExecution (same : state.Same other) (unique : state.UniqueExecutions)
    {executionId : String} {attempt : AttemptState}
    (owned : state.attemptOfExecution executionId = some attempt) :
    other.attemptOfExecution executionId = some attempt := by
  obtain ⟨id, node, plan, found, current, set, names⟩ :=
    (attemptOfExecution_iff same.distinct.1 unique).mp owned
  obtain ⟨twin, present, twins⟩ := same.node found
  exact (attemptOfExecution_iff same.distinct.2 (same.uniqueExecutions unique)).mpr
    ⟨id, twin, plan, present, twins.current.trans current, set, names⟩

end RunState.Same

/-- The run's guard ignores what text loses. -/
theorem runGuard_same {payload : RunEventPayload} {state other : RunState}
    (same : state.Same other) (unique : state.UniqueExecutions)
    (guard : payload.runGuard state) : payload.runGuard other := by
  have all {P : NodeRunState → Prop} (respects : ∀ {node twin}, node.Same twin → P node → P twin)
      (each : ∀ node ∈ state.nodes, P node) : ∀ node ∈ other.nodes, P node :=
    same.all respects each
  have exists_node := same.exists_node (P := fun node => node.status = .failed)
    (fun twins status => twins.status.trans status)
  have owned {executionId : String} {attempt : AttemptState}
      (owns : state.attemptOfExecution executionId = some attempt) :
      other.attemptOfExecution executionId = some attempt :=
    same.attemptOfExecution unique owns
  obtain ⟨⟨inputs, nodes, descriptor, rfl⟩, _, runtime, _⟩ := same
  cases payload
  case runtimeNegotiated negotiation =>
    obtain ⟨absent, idle, agrees⟩ := guard
    refine ⟨absent, all (fun twins empty => twins.attempts.trans empty) idle, fun after set => ?_⟩
    rw [set, Option.map_some] at runtime
    obtain ⟨before, set', same⟩ := Option.map_eq_some_iff.mp runtime.symm
    exact same.symm.trans (agrees before set')
  case runtimeConfigured configured =>
    obtain ⟨absent, idle, agrees⟩ := guard
    refine ⟨?_, all (fun twins empty => twins.attempts.trans empty) idle, agrees⟩
    rw [absent] at runtime
    exact Option.map_eq_none_iff.mp runtime
  case runPaused reason =>
    exact ⟨guard.1, fun named => all (fun twins idle => twins.status ▸ idle) (guard.2 named)⟩
  case runResumed operationId =>
    refine ⟨guard.1, fun blocked => all (fun {node twin} twins idle => ?_) (guard.2 blocked)⟩
    obtain ⟨⟨output, command, rfl⟩, _⟩ := twins
    exact idle
  case runRecoveryBlocked operationId reason =>
    obtain ⟨status, attempt, found, evidence⟩ := guard
    exact ⟨status, attempt, owned found, evidence⟩
  case runCancelled operationId reason =>
    exact ⟨guard.1, fun named => all (fun twins idle => twins.status ▸ idle) (guard.2 named)⟩
  case runCompleted outcome =>
    refine ⟨guard.1, fun succeeded => all (fun twins done => twins.status.trans done)
      (guard.2.1 succeeded), fun failed => exists_node (guard.2.2 failed)⟩
  all_goals exact guard

theorem RunState.Same.accepts {state other : RunState} (same : state.Same other)
    (unique : state.UniqueExecutions) {payload : RunEventPayload}
    (accepted : payload.Accepts state) : payload.Accepts other := by
  unfold Accepts at accepted ⊢
  split at accepted
  · obtain ⟨node, found, guard⟩ := accepted
    obtain ⟨twin, present, twins⟩ := same.node found
    exact ⟨twin, present, nodeGuard_same same twins guard⟩
  · exact runGuard_same same unique accepted

theorem effect_distinct (payload : RunEventPayload) {state : RunState}
    (distinct : Keyed.Distinct state.nodes) : Keyed.Distinct (payload.effect state).nodes := by
  unfold effect
  cases change : payload.nodeChange with
  | none => exact (runChange_nodes payload state).symm ▸ distinct
  | some entry =>
    exact distinct.modify fun other same => (nodeChange_id change other).trans same

/-- A change of a node keeps what text does not tell apart. -/
theorem nodeChange_same {payload : RunEventPayload} {nodeId : String}
    {f : NodeRunState → NodeRunState} (change : payload.nodeChange = some (nodeId, f))
    {node twin : NodeRunState} (twins : node.Same twin) : (f node).Same (f twin) := by
  obtain ⟨⟨output, command, rfl⟩, texts, reports⟩ := twins
  unfold nodeChange at change
  split at change <;> cases change <;> exact ⟨⟨_, _, rfl⟩, by first | exact texts | rfl,
    by first | exact reports | rfl⟩

theorem RunState.Same.effect {state other : RunState} (same : state.Same other)
    (payload : RunEventPayload) : (payload.effect state).Same (payload.effect other) := by
  have nodes (id : String) : Option.Rel NodeRunState.Same ((payload.effect state).node? id)
      ((payload.effect other).node? id) := by
    rw [effect_node?, effect_node?]
    have related := same.nodes id
    cases change : payload.nodeChange with
    | none => exact related
    | some entry =>
      obtain ⟨nodeId, f⟩ := entry
      simp only
      split
      · exact rel_map (nodeChange_same change) related
      · exact related
  have distinct : Keyed.Distinct (payload.effect state).nodes ∧
      Keyed.Distinct (payload.effect other).nodes :=
    ⟨effect_distinct payload same.distinct.1, effect_distinct payload same.distinct.2⟩
  obtain ⟨⟨inputs, nodes', descriptor, rfl⟩, texts, runtime, descriptors, _, _⟩ := same
  cases payload
  case runtimeConfigured configured => exact ⟨⟨_, _, _, rfl⟩, texts, rfl, rfl, distinct, nodes⟩
  case runCompleted outcome =>
    cases outcome <;> exact ⟨⟨_, _, _, rfl⟩, texts, runtime, descriptors, distinct, nodes⟩
  case runtimeEventObserved nodeId number event =>
    cases event <;> exact ⟨⟨_, _, _, rfl⟩, texts, runtime, descriptors, distinct, nodes⟩
  case nodePaused nodeId reason =>
    cases reason <;> exact ⟨⟨_, _, _, rfl⟩, texts, runtime, descriptors, distinct, nodes⟩
  all_goals exact ⟨⟨_, _, _, rfl⟩, texts, runtime, descriptors, distinct, nodes⟩

theorem RunState.Same.sequence {state other : RunState} (same : state.Same other)
    (sequence : Nat) :
    RunState.Same { state with sequence } { other with sequence } := by
  obtain ⟨⟨inputs, nodes, descriptor, rfl⟩, texts, runtime, descriptors, distinct, each⟩ := same
  exact ⟨⟨inputs, nodes, descriptor, rfl⟩, texts, runtime, descriptors, distinct, each⟩

/-- States that text does not tell apart accept the same events, and stay so. -/
theorem RunState.Same.step {state other next : RunState} (same : state.Same other)
    (unique : state.UniqueExecutions) {event : RunEvent}
    (applied : applyRunEvent (some state) event = .ok next) :
    ∃ twin, applyRunEvent (some other) event = .ok twin ∧ next.Same twin := by
  obtain ⟨valid, runId, sequence, live, accepted, rfl⟩ := applyRunEvent_step.mp applied
  refine ⟨_, applyRunEvent_step.mpr ⟨valid, ?_, ?_, ?_, same.accepts unique accepted, rfl⟩,
    (same.effect event.payload).sequence event.sequence⟩
  all_goals obtain ⟨⟨inputs, nodes, descriptor, rfl⟩, _⟩ := same
  · exact runId
  · exact sequence
  · exact live

def RunEventPayload.preparedExecution? : RunEventPayload → Option String
  | .attemptPrepared _ _ execution _ => some execution.executionId
  | _ => none

/-- Every plan of an attempt was prepared for it in the history. -/
theorem replayRun_prepared {events : List RunEvent} {state : RunState}
    (replayed : replayRun events = .ok state) {id : String} {node : NodeRunState}
    (found : state.node? id = some node) : ∀ attempt ∈ node.attempts, ∀ plan,
      attempt.executionPlan = some plan → ∃ event ∈ events, ∃ checkpoint,
        event.payload = .attemptPrepared id attempt.number plan checkpoint := by
  refine replayRun_induction (P := fun events state => ∀ {id node}, state.node? id = some node →
    ∀ attempt ∈ node.attempts, ∀ plan, attempt.executionPlan = some plan →
      ∃ event ∈ events, ∃ checkpoint,
        event.payload = .attemptPrepared id attempt.number plan checkpoint) ?_ ?_ replayed found
  · intro event state applied id node found attempt member
    rw [(createdState_nodes applied).2 node (Keyed.find_mem found)] at member
    cases member
  · intro history state event next _ prepared applied id node found attempt member plan set
    obtain ⟨_, _, _, _, accepted, rfl⟩ := applyRunEvent_step.mp applied
    obtain ⟨before, present, origin⟩ := effect_node accepted found
    have earlier (old : AttemptState) (member : old ∈ before.attempts)
        (set : old.executionPlan = some plan) : ∃ event' ∈ history ++ [event], ∃ checkpoint,
          event'.payload = .attemptPrepared id old.number plan checkpoint := by
      obtain ⟨event', inside, prepared⟩ := prepared present old member plan set
      exact ⟨event', List.mem_append_left _ inside, prepared⟩
    rcases origin with ⟨rfl, _⟩ | moves
    · exact earlier attempt member set
    · have key : before.id = id := Keyed.find_key present
      cases moves.attempts with
      | same attempts => exact earlier attempt (attempts ▸ member) set
      | scheduled runtimeId _ attempts =>
        rw [attempts] at member
        rcases List.mem_append.mp member with old | fresh
        · exact earlier attempt old set
        · rw [List.mem_singleton.mp fresh] at set
          cases set
      | rewritten last after current step attempts =>
        have owned := List.mem_of_getLast? current
        rw [attempts] at member
        rcases List.mem_append.mp member with old | fresh
        · exact earlier attempt (List.dropLast_subset _ old) set
        · obtain rfl := List.mem_singleton.mp fresh
          cases step with
          | evidence same | orphaned same | ended same =>
            rw [same.number]
            exact earlier last owned (same.executionPlan ▸ set)
          | authorized execution waiting planned => exact earlier last owned set
          | started waiting unconfigured => exact earlier last owned set
          | prepared execution checkpoint payload waiting allowed =>
            obtain rfl := Option.some.inj set
            refine ⟨event, List.mem_append_right _ List.mem_cons_self, checkpoint, ?_⟩
            rw [payload, key]

/-- Executions drawn fresh belong to one node each. -/
theorem replayRun_uniqueExecutions {events : List RunEvent} {state : RunState}
    (replayed : replayRun events = .ok state)
    (fresh : (events.filterMap (·.payload.preparedExecution?)).Nodup) :
    state.UniqueExecutions := by
  intro id id' node node' attempt attempt' plan plan' found found' current current' set set' same
  obtain ⟨event, member, checkpoint, payload⟩ :=
    replayRun_prepared replayed found attempt (List.mem_of_getLast? current) plan set
  obtain ⟨event', member', checkpoint', payload'⟩ :=
    replayRun_prepared replayed found' attempt' (List.mem_of_getLast? current') plan' set'
  have distinct := List.pairwise_filterMap.mp fresh
  by_contra other
  have different : event ≠ event' := by
    rintro rfl
    exact other (attemptPrepared.inj (payload.symm.trans payload')).1
  have symmetric : Std.Symm fun a b : RunEvent => ∀ x, a.payload.preparedExecution? = some x →
      ∀ y, b.payload.preparedExecution? = some y → x ≠ y :=
    ⟨fun a b apart x first y second => (apart y second x first).symm⟩
  refine distinct.forall member member' different plan.executionId ?_ plan'.executionId ?_ same
  · rw [payload]
    rfl
  · rw [payload']
    rfl

theorem fieldTexts_append (fields others : List (String × JsonValue)) :
    fieldTexts (fields ++ others) = fieldTexts fields ++ fieldTexts others := by
  rw [fieldTexts_map, fieldTexts_map, fieldTexts_map, List.map_append]

theorem fieldTexts_optional (key : String) (value : Option JsonValue) :
    fieldTexts (JsonValue.optional key value) =
      ((value.map canonicalChars).map fun text => (key, text)).toList := by
  cases value <;> rfl

theorem fieldTexts_field {α : Type} (key : String) (f : α → JsonValue) (value : Option α) :
    fieldTexts (JsonValue.field key f value) =
      ((value.map fun a => canonicalChars (f a)).map fun text => (key, text)).toList := by
  cases value <;> rfl

theorem NodeRunState.Same.text {node twin : NodeRunState} (twins : node.Same twin) :
    canonicalChars twin.toJson = canonicalChars node.toJson := by
  obtain ⟨⟨output, command, rfl⟩, texts, reports⟩ := twins
  refine canonicalChars_object_congr fun k => congrArg _ ?_
  simp only [fieldTexts_append, fieldTexts_optional, fieldTexts_field, texts, reports]

/-- States that text does not tell apart have one canonical text. -/
theorem RunState.Same.text {state other : RunState} (same : state.Same other) :
    canonicalJson other.toJson = canonicalJson state.toJson := by
  have nodes (k : String) :
      (fieldTexts (other.nodes.map fun node => (node.id, node.toJson))).filter
        (fun entry => decide (entry.1 = k)) =
      (fieldTexts (state.nodes.map fun node => (node.id, node.toJson))).filter
        fun entry => decide (entry.1 = k) := by
    rw [fieldTexts_map, fieldTexts_map, List.map_map, List.map_map, List.filter_map,
      List.filter_map]
    have left := Keyed.filter_key same.distinct.2 k
    have right := Keyed.filter_key same.distinct.1 k
    have related := same.nodes k
    simp only [RunState.node?] at related
    refine (congrArg _ left).trans (Eq.trans ?_ (congrArg _ right.symm))
    generalize Keyed.find state.nodes k = node at related
    generalize Keyed.find other.nodes k = twin at related
    cases related with
    | none => rfl
    | some twins => simp [twins.text, twins.id]
  have nodeText := canonicalChars_object_congr nodes
  obtain ⟨⟨inputs, nodes', descriptor, rfl⟩, texts, runtime, descriptors, _⟩ := same
  refine congrArg String.ofList (canonicalChars_object_congr fun k => congrArg _ ?_)
  simp only [fieldTexts_append, fieldTexts_field, fieldTexts, descriptors, texts, nodeText]

theorem report_reread_text (report : CommandReport) :
    canonicalChars report.reread.toJson = canonicalChars report.toJson := by
  have duration : canonicalChars (.number report.reread.durationMs) =
      canonicalChars (.number report.durationMs) := by
    rw [canonicalChars, canonicalChars]
    exact numberChars_parsed report.durationMs
  refine canonicalChars_object_congr fun k => congrArg _ ?_
  simp only [fieldTexts, duration]
  rfl

theorem NodeRunState.same_reread (node : NodeRunState) : node.Same node.reread where
  fields := ⟨_, _, rfl⟩
  output := by
    simp only [NodeRunState.reread, Option.map_map]
    exact congrFun (congrArg _ (funext canonicalChars_reread)) node.output
  command := by
    simp only [NodeRunState.reread, Option.map_map]
    exact congrFun (congrArg _ (funext report_reread_text)) node.command

theorem descriptor_reread_text (descriptor : RuntimeDescriptor) :
    canonicalChars descriptor.reread.toJson = canonicalChars descriptor.toJson := by
  have configuration : canonicalChars (.object descriptor.reread.configuration) =
      canonicalChars (.object descriptor.configuration) :=
    canonicalChars_reread (.object descriptor.configuration)
  refine canonicalChars_object_congr fun k => congrArg _ ?_
  simp only [fieldTexts, configuration]
  rfl

/-- A state and the one read back from its canonical text. -/
theorem RunState.same_reread {state : RunState} (distinct : Keyed.Distinct state.nodes) :
    state.Same state.reread := by
  have keys : Keyed.keys (state.nodes.map NodeRunState.reread) = Keyed.keys state.nodes := by
    rw [Keyed.keys, Keyed.keys, List.map_map]
    rfl
  have mapped : Keyed.Distinct (state.nodes.map NodeRunState.reread) := by
    rw [Keyed.Distinct, keys]
    exact distinct
  have perm := Js.parsedOrder_perm NodeRunState.id (state.nodes.map NodeRunState.reread)
  have reordered : Keyed.Distinct state.reread.nodes := (perm.map Keyed.key).nodup_iff.mpr mapped
  refine ⟨⟨_, _, _, rfl⟩, canonicalChars_reread (.object state.inputs), ?_, ?_,
    ⟨distinct, reordered⟩, fun id => ?_⟩
  · cases set : state.runtimeDescriptor <;> simp [RunState.reread, set, RuntimeDescriptor.reread]
  · cases set : state.runtimeDescriptor <;> simp [RunState.reread, set, descriptor_reread_text]
  · have lookup : state.reread.node? id = (state.node? id).map NodeRunState.reread := by
      refine (Keyed.find_perm perm reordered id).trans ?_
      unfold RunState.node? Keyed.find
      rw [List.find?_map]
      rfl
    rw [lookup]
    cases state.node? id with
    | none => exact .none
    | some node => exact .some node.same_reread

/-- Later events keep two such states together. -/
theorem foldEvents_same {tail : List RunEvent} : ∀ {earlier : List RunEvent}
    {state other : RunState}, replayRun earlier = .ok state →
    ((earlier ++ tail).filterMap (·.payload.preparedExecution?)).Nodup → state.Same other →
    (∀ final, foldEvents (some state) tail = .ok (some final) →
      ∃ twin, foldEvents (some other) tail = .ok (some twin)) ∧
    ∀ twin, foldEvents (some other) tail = .ok (some twin) →
      ∃ final, foldEvents (some state) tail = .ok (some final) ∧ final.Same twin ∧
        replayRun (earlier ++ tail) = .ok final := by
  induction tail with
  | nil =>
    intro earlier state other replayed _ same
    refine ⟨fun _ _ => ⟨other, rfl⟩, fun twin folded => ?_⟩
    obtain rfl := Option.some.inj (Except.ok.inj folded)
    exact ⟨state, rfl, same, by rwa [List.append_nil]⟩
  | cons event rest ih =>
    intro earlier state other replayed fresh same
    have unique : state.UniqueExecutions := by
      refine replayRun_uniqueExecutions replayed ?_
      rw [List.filterMap_append] at fresh
      exact fresh.of_append_left
    have extended {next : RunState} (applied : applyRunEvent (some state) event = .ok next) :
        replayRun (earlier ++ [event]) = .ok next :=
      replayRun_concat_ok.mpr (.inr ⟨state, replayed, applied⟩)
    rw [List.append_cons] at fresh ⊢
    constructor
    · intro final folded
      obtain ⟨next, applied, folded⟩ := foldEvents_cons_ok.mp folded
      obtain ⟨twin, applied', same⟩ := same.step unique applied
      obtain ⟨last, folded'⟩ := (ih (extended applied) fresh same).1 final folded
      exact ⟨last, foldEvents_cons_ok.mpr ⟨twin, applied', folded'⟩⟩
    · intro last folded
      obtain ⟨twin, applied, folded⟩ := foldEvents_cons_ok.mp folded
      obtain ⟨next, applied', same⟩ := same.symm.step (same.uniqueExecutions unique) applied
      obtain ⟨final, folded', rest⟩ := (ih (extended applied') fresh same.symm).2 last folded
      exact ⟨final, foldEvents_cons_ok.mpr ⟨next, applied', folded'⟩, rest⟩

/-- The tail of a history applied to a re-read snapshot of its prefix is accepted exactly
when it is accepted by the prefix's own state, leaves a state with the same canonical text,
and that state accepts the same further events. -/
theorem snapshot_tail {earlier tail : List RunEvent} {state : RunState}
    (replayed : replayRun earlier = .ok state)
    (fresh : ((earlier ++ tail).filterMap (·.payload.preparedExecution?)).Nodup) :
    ((∃ final, foldEvents (some state) tail = .ok (some final)) ↔
      ∃ final, foldEvents (some state.reread) tail = .ok (some final)) ∧
    ∀ final other, foldEvents (some state) tail = .ok (some final) →
      foldEvents (some state.reread) tail = .ok (some other) →
      canonicalJson final.toJson = canonicalJson other.toJson ∧
      ∀ event, (∃ next, applyRunEvent (some final) event = .ok next) ↔
        ∃ next, applyRunEvent (some other) event = .ok next := by
  have together := foldEvents_same replayed fresh (RunState.same_reread (replayRun_distinct replayed))
  refine ⟨⟨?_, ?_⟩, ?_⟩
  · rintro ⟨final, folded⟩
    exact together.1 final folded
  · rintro ⟨other, folded⟩
    obtain ⟨final, folded', _⟩ := together.2 other folded
    exact ⟨final, folded'⟩
  · intro final other folded folded'
    obtain ⟨_, again, same, whole⟩ := together.2 other folded'
    rw [folded, Except.ok.injEq, Option.some.injEq] at again
    subst again
    have unique : final.UniqueExecutions := replayRun_uniqueExecutions whole fresh
    refine ⟨same.text.symm, fun event => ⟨?_, ?_⟩⟩
    · rintro ⟨next, applied⟩
      obtain ⟨twin, applied', _⟩ := same.step unique applied
      exact ⟨twin, applied'⟩
    · rintro ⟨next, applied⟩
      obtain ⟨twin, applied', _⟩ := same.symm.step (same.uniqueExecutions unique) applied
      exact ⟨twin, applied'⟩

def succeededBuild : RunEvent :=
  { payload := .attemptSucceeded "build" 1 .null, runId := "run", sequence := 7 }

theorem configuredRun_snapshot_tail :
    ((∃ final, foldEvents (some configuredState) [succeededBuild] = .ok (some final)) ↔
      ∃ final, foldEvents (some configuredState.reread) [succeededBuild] = .ok (some final)) ∧
    ∀ final other, foldEvents (some configuredState) [succeededBuild] = .ok (some final) →
      foldEvents (some configuredState.reread) [succeededBuild] = .ok (some other) →
      canonicalJson final.toJson = canonicalJson other.toJson ∧
      ∀ event, (∃ next, applyRunEvent (some final) event = .ok next) ↔
        ∃ next, applyRunEvent (some other) event = .ok next :=
  snapshot_tail configuredRun_replayed (by decide)

end Anastom
