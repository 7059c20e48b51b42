import Anastom.Core.WorkflowDocument
import Anastom.Data.Outcomes

/-! What the engine relies on in a definition, and that authored workflows have it once
they are normalized. -/
namespace Anastom

namespace WorkflowDefinition

/-- `workflow.nodes[nodeId]?.needs ?? []` -/
def needs (workflow : WorkflowDefinition) (nodeId : String) : List String :=
  ((workflow.node? nodeId).map WorkflowNode.needs).getD []

/-- A closed, acyclic graph of nodes under their own names, each with a budget. -/
structure WellFormed (workflow : WorkflowDefinition) : Prop where
  distinct : workflow.nodeOrder.Nodup
  nonempty : workflow.nodeOrder ≠ []
  present : ∀ id ∈ workflow.nodeOrder, ∃ node, workflow.node? id = some node
  closed : ∀ {id node}, workflow.node? id = some node → ∀ need ∈ node.needs,
    need ∈ workflow.nodeOrder
  budget : ∀ {id node}, workflow.node? id = some node → 1 ≤ node.attemptBudget.maxAttempts
  acyclic : ∃ finished, Dependencies.Ordered workflow.needs finished ∧
    workflow.nodeOrder ⊆ finished

/-- The normalized form of an authored workflow; a task adds its objective to it. -/
def Authored (workflow : WorkflowDefinition) : Prop :=
  ∃ reader source files ajv document path normalized,
    parseWorkflowYaml reader source = .ok document ∧
    normalizeWorkflow files ajv document path = .ok normalized ∧
    workflow = { normalized with task := workflow.task }

end WorkflowDefinition

open WorkflowDocument

/-- What a document has passed before it is normalized. -/
structure WorkflowDocument.Valid (document : WorkflowDocument) : Prop where
  schema : validateWorkflowDocument document = true
  closed : ∀ entry ∈ document.nodes, ∀ need ∈ entry.2.needs.getD [], need ∈ document.nodeIds
  acyclic : (Dependencies.explore document.needs cycleIssue document.nodeIds).issues = []

theorem parseWorkflowYaml_valid {reader : DocumentReader} {source : String}
    {document : WorkflowDocument} (parsed : parseWorkflowYaml reader source = .ok document) :
    document.Valid := by
  unfold parseWorkflowYaml at parsed
  obtain ⟨candidate, _, checked⟩ := bind_ok.mp parsed
  cases schema : validateWorkflowDocument candidate with
  | false => simp [schema, bind, Except.bind, throw, throwThe, MonadExceptOf.throw] at checked
  | true =>
    simp only [schema, Bool.not_true, Bool.false_eq_true, if_false] at checked
    obtain ⟨_, semantic, same⟩ := bind_ok.mp checked
    obtain rfl := Except.ok.inj same
    unfold assertSemanticValidity at semantic
    split at semantic
    · rename_i silent
      rw [List.isEmpty_iff, semanticIssues, List.append_eq_nil_iff, List.flatMap_eq_nil_iff] at silent
      refine ⟨schema, fun entry member need needed => ?_, silent.2⟩
      have issues := silent.1 entry member
      simp only [nodeIssues, List.append_eq_nil_iff, List.flatMap_eq_nil_iff] at issues
      have known := issues.2 need needed
      simp only [dependencyIssues, List.append_eq_nil_iff] at known
      by_contra unknown
      simp [unknown] at known
    · cases semantic

namespace WorkflowDocument.Valid
variable {document : WorkflowDocument}

theorem distinct (valid : document.Valid) : document.nodeIds.Nodup := by
  have schema := valid.schema
  simp only [validateWorkflowDocument, Bool.and_eq_true, decide_eq_true_eq] at schema
  exact schema.1.2

theorem nonempty (valid : document.Valid) : document.nodeIds ≠ [] := by
  have schema := valid.schema
  simp only [validateWorkflowDocument, Bool.and_eq_true, Bool.not_eq_true',
    List.isEmpty_eq_false_iff] at schema
  rw [nodeIds, ne_eq, List.map_eq_nil_iff]
  exact schema.1.1.2

theorem policies (valid : document.Valid) :
    document.defaultAttemptBudget.all validPolicy = true ∧
      ∀ entry ∈ document.nodes, entry.2.attemptPolicy.all validPolicy = true := by
  have schema := valid.schema
  simp only [validateWorkflowDocument, Bool.and_eq_true, List.all_eq_true] at schema
  refine ⟨schema.1.1.1.2, fun entry member => ?_⟩
  have node := schema.2 entry member
  simp only [validNode, Bool.and_eq_true] at node
  exact node.1.2

end WorkflowDocument.Valid

theorem normalizeBudget_attempts {policy : Option AttemptPolicyDocument}
    {fallback : Option AttemptBudget} {budget : AttemptBudget}
    (valid : policy.all validPolicy = true) (positive : ∀ b ∈ fallback, 1 ≤ b.maxAttempts)
    (normalized : normalizeBudget policy fallback = .ok budget) : 1 ≤ budget.maxAttempts := by
  have attempts : budget.maxAttempts = ((policy.bind AttemptPolicyDocument.maxAttempts).or
      (fallback.map AttemptBudget.maxAttempts)).getD 1 := by
    simp only [normalizeBudget] at normalized
    split at normalized
    · exact congrArg AttemptBudget.maxAttempts (Except.ok.inj normalized).symm
    · obtain ⟨_, _, same⟩ := bind_ok.mp normalized
      exact congrArg AttemptBudget.maxAttempts (Except.ok.inj same).symm
  rw [attempts]
  cases policy with
  | none =>
    cases fallback with
    | none => simp
    | some b => simpa using positive b rfl
  | some policy =>
    obtain ⟨declared, maxDuration⟩ := policy
    cases declared with
    | none =>
      cases fallback with
      | none => simp
      | some b => simpa using positive b rfl
    | some n =>
      simp only [Option.all_some, validPolicy, Bool.and_eq_true, decide_eq_true_eq] at valid
      simpa using valid.1

/-- What a normalized node has of its authored form. -/
structure NormalizedFrom (fallback : AttemptBudget) (authored : WorkflowNodeDocument)
    (node : WorkflowNode) : Prop where
  needs : node.needs = authored.needs.getD []
  budget : normalizeBudget authored.attemptPolicy (some fallback) = .ok node.attemptBudget

theorem normalizeNode_ok {files : SchemaFiles} {ajv : Ajv} {sourcePath : String}
    {fallback : AttemptBudget} {entry : String × WorkflowNodeDocument} {node : String × WorkflowNode}
    (normalized : normalizeNode files ajv sourcePath fallback entry = .ok node) :
    node.1 = entry.1 ∧ NormalizedFrom fallback entry.2 node.2 := by
  unfold normalizeNode at normalized
  obtain ⟨output, _, rest⟩ := bind_ok.mp normalized
  obtain ⟨budget, budgetOk, rest⟩ := bind_ok.mp rest
  obtain ⟨command, _, same⟩ := bind_ok.mp rest
  obtain rfl := Except.ok.inj same
  exact ⟨rfl, rfl, budgetOk⟩

/-- An entry of a distinct list is found under its own key. -/
theorem lookup_of_mem {entries : List (String × α)} (distinct : (entries.map Prod.fst).Nodup)
    {entry : String × α} (member : entry ∈ entries) : entries.lookup entry.1 = some entry.2 := by
  induction entries with
  | nil => cases member
  | cons first rest ih =>
    obtain ⟨key, value⟩ := first
    obtain ⟨absent, distinct⟩ := List.nodup_cons.mp distinct
    rw [List.lookup_cons]
    rcases List.mem_cons.mp member with rfl | inRest
    · simp
    · have other : entry.1 ≠ key := fun same =>
        absent (List.mem_map.mpr ⟨entry, inRest, same⟩)
      rw [beq_eq_false_iff_ne.mpr other]
      exact ih distinct inRest

/-- Entries related one to one under the same keys are found together. -/
theorem lookup_forall₂ {R : α → β → Prop} {left : List (String × α)} {right : List (String × β)}
    (related : List.Forall₂ (fun a b => b.1 = a.1 ∧ R a.2 b.2) left right) (id : String) :
    Option.Rel R (left.lookup id) (right.lookup id) := by
  induction related with
  | nil => exact .none
  | @cons a b _ _ head _ ih =>
    obtain ⟨key, value⟩ := a
    obtain ⟨key', value'⟩ := b
    obtain ⟨rfl, holds⟩ := head
    rw [List.lookup_cons, List.lookup_cons]
    cases id == key' with
    | true => exact .some holds
    | false => exact ih

theorem normalizeWorkflow_wellFormed {files : SchemaFiles} {ajv : Ajv} {path : String}
    {document : WorkflowDocument} {workflow : WorkflowDefinition} (valid : document.Valid)
    (normalized : normalizeWorkflow files ajv document path = .ok workflow) :
    workflow.WellFormed := by
  unfold normalizeWorkflow at normalized
  obtain ⟨fallback, fallbackOk, rest⟩ := bind_ok.mp normalized
  obtain ⟨inputs, _, rest⟩ := bind_ok.mp rest
  obtain ⟨nodes, nodesOk, same⟩ := bind_ok.mp rest
  obtain rfl := Except.ok.inj same
  have related := (mapM_ok.mp nodesOk).imp fun _ _ one => normalizeNode_ok one
  have found (id : String) : Option.Rel (NormalizedFrom fallback) (document.nodes.lookup id)
      (nodes.lookup id) := lookup_forall₂ related id
  have source {id : String} {node : WorkflowNode} (present : nodes.lookup id = some node) :
      ∃ authored, (id, authored) ∈ document.nodes ∧ NormalizedFrom fallback authored node := by
    have here := found id
    rw [present] at here
    generalize authored : document.nodes.lookup id = entry at here
    cases here with
    | some holds => exact ⟨_, lookup_mem authored, holds⟩
  have needs : document.needs =
      fun id => ((nodes.lookup id).map WorkflowNode.needs).getD [] := by
    funext id
    have here := found id
    unfold WorkflowDocument.needs
    generalize authored : document.nodes.lookup id = entry at here
    generalize nodes.lookup id = node at here ⊢
    cases here with
    | none => rfl
    | some holds =>
      simp only [Option.bind_some, Option.map_some, Option.getD_some, holds.needs]
      refine List.filter_eq_self.mpr fun need needed => ?_
      exact List.contains_iff_mem.mpr (valid.closed _ (lookup_mem authored) need needed)
  have fallbackPositive := normalizeBudget_attempts valid.policies.1 (by simp) fallbackOk
  constructor
  case distinct => exact valid.distinct
  case nonempty => exact valid.nonempty
  case present =>
    intro id member
    obtain ⟨entry, inNodes, rfl⟩ := List.mem_map.mp member
    have here := found entry.1
    cases authored : document.nodes.lookup entry.1 with
    | none =>
      have absent := List.lookup_eq_none_iff.mp authored entry inNodes
      simp at absent
    | some value =>
      rw [authored] at here
      show ∃ node, nodes.lookup entry.1 = some node
      generalize nodes.lookup entry.1 = node at here ⊢
      cases here with
      | some _ => exact ⟨_, rfl⟩
  case closed =>
    intro id node present need needed
    obtain ⟨authored, member, normal⟩ := source present
    rw [normal.needs] at needed
    exact valid.closed _ member need needed
  case budget =>
    intro id node present
    obtain ⟨authored, member, normal⟩ := source present
    exact normalizeBudget_attempts (valid.policies.2 _ member) (by simpa using fallbackPositive)
      normal.budget
  case acyclic =>
    have closed : ∀ a ∈ document.nodeIds, ∀ b ∈ document.needs a, b ∈ document.nodeIds :=
      fun a _ b needed => List.contains_iff_mem.mp (List.of_mem_filter needed)
    obtain ⟨ordered, complete⟩ := Dependencies.explore_ordered closed valid.acyclic
    rw [needs] at ordered complete
    exact ⟨_, ordered, complete⟩

/-- Every authored workflow is well formed once it is normalized. -/
theorem WorkflowDefinition.Authored.wellFormed {workflow : WorkflowDefinition}
    (authored : workflow.Authored) : workflow.WellFormed := by
  obtain ⟨_, _, _, _, _, _, normalized, parsed, normal, same⟩ := authored
  have formed := normalizeWorkflow_wellFormed (parseWorkflowYaml_valid parsed) normal
  rw [same]
  exact ⟨formed.distinct, formed.nonempty, formed.present, formed.closed, formed.budget,
    formed.acyclic⟩

end Anastom
