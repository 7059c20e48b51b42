import Anastom.Core.NormalForm
import Anastom.Persistence.DefinitionRecord

/-! A stored workflow can be recovered: what normalization produces is read back from its
canonical text as it was, and passes the assertion of stored definitions. -/
namespace Anastom
open WorkflowDocument
open Definition (isAbsolute pathParts metadataId metadataVersion isObject timerRange validBudget
  validReference)

namespace WorkflowDefinition

/-- A node under its own name, with the fields of its kind in range. -/
structure NodeStored (ajv : Ajv) (id : String) (node : WorkflowNode) : Prop where
  identity : node.id = id
  name : Text.nodeName id = true
  needsDistinct : node.needs.Nodup
  needsNamed : ∀ need ∈ node.needs, need.isEmpty = false
  roleNamed : ∀ role ∈ node.role, role.isEmpty = false
  role : node.role.isSome = true ↔ node.kind = .agent
  mutation : node.mutation.isSome = true → node.kind = .agent
  command : node.command.isSome = true → node.kind = .command
  bounds : ∀ command ∈ node.command, Definition.validCommand command = true ∧
    isAbsolute command.cwd = false ∧ ['.', '.'] ∉ pathParts command.cwd
  output : validReference ajv node.output = true
  budget : validBudget node.attemptBudget = true

/-- A definition whose tables have distinct names, in any order. -/
structure Stored (ajv : Ajv) (workflow : WorkflowDefinition) : Prop where
  metadata : metadataId workflow.metadata.id = true ∧
    metadataVersion workflow.metadata.version = true
  sourcePath : isAbsolute workflow.sourcePath = true
  inputKeys : (workflow.inputs.map Prod.fst).Nodup
  inputs : ∀ entry ∈ workflow.inputs, entry.2.id = entry.1 ∧
    validReference ajv entry.2.toResolvedSchemaReference = true
  budget : validBudget workflow.defaultAttemptBudget = true
  nonempty : workflow.nodes ≠ []
  nodeKeys : (workflow.nodes.map Prod.fst).Nodup
  nodeOrder : workflow.nodeOrder.Perm (workflow.nodes.map Prod.fst)
  nodes : ∀ entry ∈ workflow.nodes, NodeStored ajv entry.1 entry.2
  closed : ∀ entry ∈ workflow.nodes, ∀ need ∈ entry.2.needs, need ∈ workflow.nodes.map Prod.fst
  acyclic : ∃ order, Dependencies.Topological workflow.needs (workflow.nodes.map Prod.fst) order
  task : ∀ task ∈ workflow.task, task.objective.isEmpty = false ∧
    task.acceptanceCriteria ≠ [] ∧ ∀ criterion ∈ task.acceptanceCriteria, criterion.isEmpty = false

namespace NodeStored
variable {ajv : Ajv} {id : String} {node : WorkflowNode}

end NodeStored

theorem node?_iff {workflow : WorkflowDefinition} (distinct : (workflow.nodes.map Prod.fst).Nodup)
    {id : String} {node : WorkflowNode} :
    workflow.node? id = some node ↔ (id, node) ∈ workflow.nodes :=
  ⟨lookup_mem, fun member => lookup_of_mem distinct member⟩

theorem node?_isSome {workflow : WorkflowDefinition}
    (distinct : (workflow.nodes.map Prod.fst).Nodup) {id : String} :
    (workflow.node? id).isSome = true ↔ id ∈ workflow.nodes.map Prod.fst := by
  rw [Option.isSome_iff_exists, List.mem_map]
  constructor
  · rintro ⟨node, found⟩
    exact ⟨(id, node), (node?_iff distinct).mp found, rfl⟩
  · rintro ⟨⟨_, node⟩, member, rfl⟩
    exact ⟨node, (node?_iff distinct).mpr member⟩

namespace Stored
variable {ajv : Ajv} {workflow : WorkflowDefinition}

theorem nodeOrder_present (stored : Stored ajv workflow) :
    workflow.nodeOrder.all (fun id => (workflow.node? id).isSome) = true := by
  rw [List.all_eq_true]
  intro id member
  exact (node?_isSome stored.nodeKeys).mpr (stored.nodeOrder.subset member)

theorem nodeOrder_length (stored : Stored ajv workflow) :
    workflow.nodeOrder.length = workflow.nodes.length := by
  rw [stored.nodeOrder.length_eq, List.length_map]

theorem nodeOrder_nonempty (stored : Stored ajv workflow) : workflow.nodeOrder.isEmpty = false := by
  rw [List.isEmpty_eq_false_iff, ← List.length_pos_iff, stored.nodeOrder_length,
    List.length_pos_iff]
  exact stored.nonempty

theorem sourcePath_nonempty (stored : Stored ajv workflow) : workflow.sourcePath.isEmpty = false := by
  have absolute := stored.sourcePath
  rw [Bool.eq_false_iff, ne_eq, String.isEmpty_iff]
  rintro empty
  rw [empty] at absolute
  cases absolute

theorem validate (stored : Stored ajv workflow) : workflow.validate = true := by
  have reference {output : ResolvedSchemaReference} (valid : validReference ajv output = true) :
      (!output.ref.isEmpty && isObject output.schema) = true := by
    rw [validReference, Bool.and_eq_true] at valid
    exact valid.1
  simp only [WorkflowDefinition.validate, Bool.and_eq_true, List.all_eq_true, Option.all_eq_true,
    decide_eq_true_eq, Bool.not_eq_true']
  refine ⟨⟨⟨⟨⟨⟨⟨stored.sourcePath_nonempty, ?_⟩, stored.budget⟩, stored.nodeOrder_nonempty⟩,
    stored.nodeOrder.nodup_iff.mpr stored.nodeKeys⟩, List.isEmpty_eq_false_iff.mpr stored.nonempty⟩,
    ?_⟩, ?_⟩
  · intro entry member
    simpa using reference (stored.inputs entry member).2
  · intro entry member
    have node := stored.nodes entry member
    have output := reference node.output
    simp only [Bool.and_eq_true, Bool.not_eq_true'] at output
    exact ⟨⟨⟨⟨node.needsDistinct, node.roleNamed⟩, output⟩, node.budget⟩,
      fun command given => (node.bounds command given).1⟩
  · intro task given
    obtain ⟨objective, criteria, each⟩ := stored.task task given
    exact ⟨⟨objective, List.isEmpty_eq_false_iff.mpr criteria⟩, each⟩

end Stored

/-- A fold that keeps the flag of a search. -/
theorem foldl_flag {step : Bool × List String → String → Bool × List String} {ids : List String}
    (each : ∀ id ∈ ids, ∀ visited, (step (true, visited) id).1 = true) (visited : List String) :
    (ids.foldl step (true, visited)).1 = true := by
  induction ids generalizing visited with
  | nil => rfl
  | cons id rest ih =>
    rw [List.forall_mem_cons] at each
    rw [List.foldl_cons, show step (true, visited) id = (true, (step (true, visited) id).2) from
      Prod.ext (each.1 visited) rfl]
    exact ih each.2 _

/-- The cycle search reports none where every need ranks below the node. -/
theorem visit_acyclic {workflow : WorkflowDefinition} {rank : String → Nat}
    (lower : ∀ id, ∀ need ∈ workflow.needs id, rank need < rank id) (fuel : Nat)
    (visiting visited : List String) (id : String) (room : rank id < fuel)
    (above : ∀ other ∈ visiting, rank id < rank other) :
    (Definition.visit workflow fuel visiting visited id).1 = true := by
  induction fuel generalizing visiting visited id with
  | zero => omega
  | succ fuel ih =>
    have fresh : visiting.contains id = false := by
      rw [Bool.eq_false_iff, ne_eq, List.contains_iff_mem]
      exact fun inside => Nat.lt_irrefl _ (above id inside)
    unfold Definition.visit
    simp only [fresh, Bool.false_eq_true, if_false]
    split
    · rfl
    · refine foldl_flag (fun need needed visited => ?_) visited
      have below := lower id need needed
      simp only
      split
      · refine (Bool.true_and _).trans (ih _ _ need (by omega) fun other inside => ?_)
        rcases List.mem_cons.mp inside with rfl | earlier
        · exact below
        · exact below.trans (above other earlier)
      · rfl

theorem acyclic_of_topological {workflow : WorkflowDefinition} {order : List String}
    (topological : Dependencies.Topological workflow.needs (workflow.nodes.map Prod.fst) order)
    (distinct : (workflow.nodes.map Prod.fst).Nodup) : Definition.acyclic workflow = true := by
  have lower : ∀ id, ∀ need ∈ workflow.needs id, order.idxOf need < order.idxOf id := by
    intro id need needed
    have known : id ∈ workflow.nodes.map Prod.fst := by
      rw [← node?_isSome distinct]
      by_contra absent
      rw [Bool.not_eq_true, Option.isSome_eq_false_iff, Option.isNone_iff_eq_none] at absent
      simp [WorkflowDefinition.needs, absent] at needed
    obtain ⟨front, back, same, first⟩ :=
      List.eq_append_cons_of_mem (topological.perm.mem_iff.mpr known)
    have before := topological.before front id back same needed
    rw [same, List.idxOf_append_of_mem before, List.idxOf_append_of_notMem first]
    have inside := List.idxOf_lt_length_of_mem before
    omega
  have room (id : String) (known : id ∈ workflow.nodes.map Prod.fst) :
      order.idxOf id < workflow.nodes.length + 1 := by
    have inside := List.idxOf_lt_length_of_mem (topological.perm.mem_iff.mpr known)
    rw [topological.perm.length_eq, List.length_map] at inside
    omega
  have each (entry : String × WorkflowNode) (member : entry ∈ workflow.nodes)
      (visited : List String) :
      (Definition.visit workflow (workflow.nodes.length + 1) [] visited entry.1).1 = true :=
    visit_acyclic lower _ [] visited entry.1 (room entry.1 (List.mem_map_of_mem member)) (by simp)
  unfold Definition.acyclic
  have folded : ∀ (entries : List (String × WorkflowNode)) (visited : List String),
      (∀ entry ∈ entries, entry ∈ workflow.nodes) →
      (entries.foldl (fun state entry =>
        (state.1 && (Definition.visit workflow (workflow.nodes.length + 1) [] state.2 entry.1).1,
          (Definition.visit workflow (workflow.nodes.length + 1) [] state.2 entry.1).2))
        (true, visited)).1 = true := by
    intro entries
    induction entries with
    | nil => exact fun _ _ => rfl
    | cons entry rest ih =>
      intro visited inside
      rw [List.forall_mem_cons] at inside
      rw [List.foldl_cons]
      simp only [each entry inside.1, Bool.and_self]
      exact ih _ inside.2
  exact folded workflow.nodes [] fun _ member => member

namespace Stored
variable {ajv : Ajv} {workflow : WorkflowDefinition}

/-- No node of an order needs itself. -/
theorem needs_other (stored : Stored ajv workflow) {id : String} {node : WorkflowNode}
    (member : (id, node) ∈ workflow.nodes) : ∀ need ∈ node.needs, need ≠ id := by
  rintro _ needed rfl
  obtain ⟨order, topological⟩ := stored.acyclic
  have known := topological.perm.mem_iff.mpr (List.mem_map_of_mem member)
  obtain ⟨front, back, same, first⟩ := List.eq_append_cons_of_mem known
  refine first (topological.before front _ back same ?_)
  rw [WorkflowDefinition.needs, (node?_iff stored.nodeKeys).mpr member]
  exact needed

/-- The typed form of the assertion accepts it as well. -/
theorem assertWorkflowDefinition (stored : Stored ajv workflow) :
    assertWorkflowDefinition ajv workflow = true := by
  obtain ⟨order, topological⟩ := stored.acyclic
  have acyclic := acyclic_of_topological topological stored.nodeKeys
  have nodes : workflow.nodes.all (Definition.validNode ajv workflow) = true := by
    rw [List.all_eq_true]
    rintro ⟨id, node⟩ member
    have own := stored.nodes _ member
    have role : (node.role.isSome == (node.kind == .agent)) = true := by
      have role := own.role
      revert role
      cases node.role.isSome <;> cases node.kind <;> decide
    have mutation : (node.mutation.isNone || node.kind == .agent) = true := by
      have mutation := own.mutation
      revert mutation
      cases node.mutation <;> cases node.kind <;> simp
    have command : (node.command.isNone || node.kind == .command) = true := by
      have command := own.command
      revert command
      cases node.command <;> cases node.kind <;> simp
    simp only [Definition.validNode, Bool.and_eq_true, beq_iff_eq, decide_eq_true_eq,
      List.all_eq_true, Option.all_eq_true, Bool.not_eq_true', bne_iff_ne]
    refine ⟨⟨⟨⟨⟨⟨⟨⟨⟨⟨⟨own.identity, own.name⟩, own.needsDistinct⟩, own.needsNamed⟩, ?_⟩,
      own.roleNamed⟩, beq_iff_eq.mp role⟩, mutation⟩, command⟩, ?_⟩, own.output⟩, own.budget⟩
    · intro need needed
      exact ⟨(node?_isSome stored.nodeKeys).mpr (stored.closed _ member need needed),
        stored.needs_other member need needed⟩
    · intro command given
      obtain ⟨valid, relative, inside⟩ := own.bounds command given
      refine ⟨⟨valid, relative⟩, ?_⟩
      rwa [Bool.eq_false_iff, ne_eq, List.contains_iff_mem]
  simp only [Anastom.assertWorkflowDefinition, Bool.and_eq_true, Bool.not_eq_true',
    decide_eq_true_eq, beq_iff_eq]
  refine ⟨⟨⟨⟨⟨⟨⟨⟨⟨⟨⟨⟨⟨stored.sourcePath, stored.nodeOrder_nonempty⟩,
    stored.nodeOrder.nodup_iff.mpr stored.nodeKeys⟩, stored.nodeKeys⟩, stored.inputKeys⟩,
    stored.nodeOrder_length⟩, stored.nodeOrder_present⟩, stored.metadata.1⟩, stored.metadata.2⟩,
    stored.budget⟩, ?_⟩, nodes⟩, ?_⟩, acyclic⟩
  · rw [List.all_eq_true]
    intro entry member
    have input := stored.inputs entry member
    rw [Bool.and_eq_true, beq_iff_eq]
    exact input
  · simp only [Option.all_eq_true, Bool.and_eq_true, Bool.not_eq_true', List.all_eq_true]
    intro task given
    obtain ⟨objective, criteria, each⟩ := stored.task task given
    exact ⟨⟨objective, List.isEmpty_eq_false_iff.mpr criteria⟩, each⟩

/-- What is stored stays stored when it is read back. -/
theorem reread (stored : Stored ajv workflow)
    (orderless : ∀ schema, ajv.compiles (JsonValue.reread schema) = ajv.compiles schema) :
    Stored ajv workflow.reread := by
  have reference {output : ResolvedSchemaReference} (valid : validReference ajv output = true) :
      validReference ajv output.reread = true := by
    simp only [validReference, Bool.and_eq_true] at valid ⊢
    refine ⟨⟨valid.1.1, ?_⟩, (orderless _).trans valid.2⟩
    have object := valid.1.2
    show isObject output.schema.reread = true
    cases schema : output.schema with
    | object fields => rfl
    | _ =>
      rw [schema] at object
      cases object
  have inputTable : workflow.reread.inputs.Perm
      (workflow.inputs.map fun entry => (entry.1, entry.2.reread)) := Js.parsedOrder_perm _ _
  have nodeTable : workflow.reread.nodes.Perm
      (workflow.nodes.map fun entry => (entry.1, entry.2.reread)) := Js.parsedOrder_perm _ _
  have inputKeys : (workflow.reread.inputs.map Prod.fst).Perm (workflow.inputs.map Prod.fst) := by
    refine (inputTable.map Prod.fst).trans (.of_eq ?_)
    rw [List.map_map]
    rfl
  have nodeKeys : (workflow.reread.nodes.map Prod.fst).Perm (workflow.nodes.map Prod.fst) := by
    refine (nodeTable.map Prod.fst).trans (.of_eq ?_)
    rw [List.map_map]
    rfl
  have node {entry : String × WorkflowNode} (member : entry ∈ workflow.reread.nodes) :
      ∃ before ∈ workflow.nodes, entry = (before.1, before.2.reread) := by
    obtain ⟨before, inside, same⟩ := List.mem_map.mp (nodeTable.subset member)
    exact ⟨before, inside, same.symm⟩
  have distinct : (workflow.reread.nodes.map Prod.fst).Nodup :=
    nodeKeys.nodup_iff.mpr stored.nodeKeys
  constructor
  case metadata => exact stored.metadata
  case sourcePath => exact stored.sourcePath
  case inputKeys => exact inputKeys.nodup_iff.mpr stored.inputKeys
  case inputs =>
    intro entry member
    obtain ⟨before, inside, rfl⟩ := List.mem_map.mp (inputTable.subset member)
    exact ⟨(stored.inputs before inside).1, reference (stored.inputs before inside).2⟩
  case budget => exact stored.budget
  case nonempty =>
    intro empty
    rw [empty] at nodeTable
    exact stored.nonempty (List.map_eq_nil_iff.mp nodeTable.nil_eq.symm)
  case nodeKeys => exact distinct
  case nodeOrder => exact stored.nodeOrder.trans nodeKeys.symm
  case nodes =>
    intro entry member
    obtain ⟨before, inside, rfl⟩ := node member
    have own := stored.nodes before inside
    exact { own with output := reference own.output }
  case closed =>
    intro entry member need needed
    obtain ⟨before, inside, rfl⟩ := node member
    exact nodeKeys.mem_iff.mpr (stored.closed before inside need needed)
  case acyclic =>
    obtain ⟨order, topological⟩ := stored.acyclic
    have needs : workflow.reread.needs = workflow.needs := by
      funext id
      unfold WorkflowDefinition.needs
      cases found : workflow.node? id with
      | none =>
        have absent : workflow.reread.node? id = none := by
          rw [← Option.not_isSome_iff_eq_none, node?_isSome distinct, nodeKeys.mem_iff,
            ← node?_isSome stored.nodeKeys, found]
          exact Bool.false_ne_true
        rw [absent]
      | some before =>
        have present : workflow.reread.node? id = some before.reread :=
          (node?_iff distinct).mpr (nodeTable.mem_iff.mpr (List.mem_map_of_mem
            (f := fun entry : String × WorkflowNode => (entry.1, entry.2.reread))
            ((node?_iff stored.nodeKeys).mp found)))
        rw [present]
        rfl
    refine ⟨order, ?_, ?_⟩
    · exact topological.perm.trans nodeKeys.symm
    · rw [needs]
      exact topological.before
  case task => exact stored.task

end Stored

variable {ajv : Ajv} {document : WorkflowDocument} {workflow : WorkflowDefinition}

/-- The YAML parser reads the JSON text of a document as that document. -/
def Reads (reader : DocumentReader) (document : WorkflowDocument) : Prop :=
  reader.parse (Json.stringify document.toJson) = .ok document

end WorkflowDefinition

end Anastom
