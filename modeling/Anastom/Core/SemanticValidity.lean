import Anastom.Core.NormalizedWorkflow

/-! What `assertSemanticValidity` accepts: closed dependencies with a topological order, and
nodes that own their fields. The cycle search returns on every graph. -/
namespace Anastom
namespace WorkflowDocument

/-- The fields a node of a kind has, and where its command may run. -/
structure NodeRules (node : WorkflowNodeDocument) : Prop where
  role : node.role.isSome = true ↔ node.kind = .agent
  mutation : node.mutation.isSome = true → node.kind = .agent
  command : node.command.isSome = true → node.kind = .command
  cwd : ∀ command, node.command = some command → ∀ cwd, command.cwd = some cwd →
    Definition.isAbsolute cwd = false ∧ ['.', '.'] ∉ Definition.pathParts cwd

/-- `document.nodes[nodeId]?.needs ?? []` -/
def declaredNeeds (document : WorkflowDocument) (nodeId : String) : List String :=
  ((document.nodes.lookup nodeId).bind WorkflowNodeDocument.needs).getD []

/-- Every `needs` entry names a node. -/
def Closed (document : WorkflowDocument) : Prop :=
  ∀ entry ∈ document.nodes, ∀ need ∈ entry.2.needs.getD [], need ∈ document.nodeIds

variable {document : WorkflowDocument}

theorem dependencyIssues_eq_nil_iff {nodeId need : String} :
    document.dependencyIssues nodeId need = [] ↔ need ∈ document.nodeIds ∧ need ≠ nodeId := by
  unfold dependencyIssues
  rw [List.append_eq_nil_iff]
  refine and_congr ?_ ?_
  · simp
  · simp

theorem nodeIssues_eq_nil_iff {entry : String × WorkflowNodeDocument} :
    document.nodeIssues entry = [] ↔ NodeRules entry.2 ∧
      ∀ need ∈ entry.2.needs.getD [], need ∈ document.nodeIds ∧ need ≠ entry.1 := by
  obtain ⟨nodeId, node⟩ := entry
  have unreported {wrong : Bool} {text : String} :
      (if wrong then ["/nodes/" ++ nodeId ++ text] else []) = [] ↔ wrong = false := by
    cases wrong <;> simp
  simp only [nodeIssues, List.append_eq_nil_iff, List.flatMap_eq_nil_iff, unreported,
    dependencyIssues_eq_nil_iff]
  refine and_congr_left fun _ => ?_
  constructor
  · rintro ⟨⟨⟨⟨missing, extra⟩, mutation⟩, command⟩, cwd⟩
    constructor
    case role =>
      cases kind : node.kind <;> cases role : node.role <;> simp [kind, role] at missing extra ⊢
    case mutation =>
      intro given
      simpa [given] using mutation
    case command =>
      intro given
      simpa [given] using command
    case cwd =>
      intro definition given path inside
      simpa [given, inside] using cwd
  · intro rules
    refine ⟨⟨⟨⟨?_, ?_⟩, ?_⟩, ?_⟩, ?_⟩
    · have role := rules.role
      cases kind : node.kind <;> cases given : node.role <;> simp [kind, given] at role ⊢
    · have role := rules.role
      cases kind : node.kind <;> cases given : node.role <;> simp [kind, given] at role ⊢
    · have mutation := rules.mutation
      cases given : node.mutation <;> simp [given] at mutation ⊢
      exact mutation
    · have command := rules.command
      cases given : node.command <;> simp [given] at command ⊢
      exact command
    · have cwd := rules.cwd
      cases given : node.command with
      | none => rfl
      | some definition =>
        cases inside : definition.cwd with
        | none => simp [inside]
        | some path => simpa [inside] using cwd definition given path inside

theorem needs_eq_declaredNeeds (closed : document.Closed) :
    document.needs = document.declaredNeeds := by
  funext nodeId
  unfold needs declaredNeeds
  refine List.filter_eq_self.mpr fun need needed => List.contains_iff_mem.mpr ?_
  cases found : document.nodes.lookup nodeId with
  | none => simp [found] at needed
  | some node =>
    rw [found, Option.bind_some] at needed
    exact closed _ (lookup_mem found) need needed

theorem needs_closed : ∀ a ∈ document.nodeIds, ∀ b ∈ document.needs a, b ∈ document.nodeIds :=
  fun _ _ _ needed => List.contains_iff_mem.mp (List.of_mem_filter needed)

theorem validateWorkflowDocument_distinct (schema : validateWorkflowDocument document = true) :
    document.nodeIds.Nodup := by
  simp only [validateWorkflowDocument, Bool.and_eq_true, decide_eq_true_eq] at schema
  exact schema.1.2

/-- Graph validation is exact, and its search returns whatever the graph. -/
theorem assertSemanticValidity_exact (document : WorkflowDocument)
    (schema : validateWorkflowDocument document = true) :
    (assertSemanticValidity document = .ok () ↔
      (∀ entry ∈ document.nodes, NodeRules entry.2) ∧ document.Closed ∧
        ∃ order, Dependencies.Topological document.declaredNeeds document.nodeIds order) ∧
    ∃ search, Dependencies.Visits document.needs cycleIssue []
        { issues := [], visiting := [], visited := [] } document.nodeIds search ∧
      (∀ other, Dependencies.Visits document.needs cycleIssue []
        { issues := [], visiting := [], visited := [] } document.nodeIds other → other = search) ∧
      document.semanticIssues = document.nodes.flatMap document.nodeIssues ++ search.issues := by
  have distinct := validateWorkflowDocument_distinct schema
  refine ⟨?_, ?_⟩
  · have accepted : assertSemanticValidity document = .ok () ↔ document.semanticIssues = [] := by
      unfold assertSemanticValidity
      rw [← List.isEmpty_iff]
      split <;> simp_all
    rw [accepted, semanticIssues, List.append_eq_nil_iff, List.flatMap_eq_nil_iff,
      Dependencies.explore_issues_eq_nil_iff distinct needs_closed]
    constructor
    · rintro ⟨silent, order, topological⟩
      have each := fun entry member => nodeIssues_eq_nil_iff.mp (silent entry member)
      have closed : document.Closed := fun entry member need needed =>
        ((each entry member).2 need needed).1
      rw [needs_eq_declaredNeeds closed] at topological
      exact ⟨fun entry member => (each entry member).1, closed, order, topological⟩
    · rintro ⟨rules, closed, order, topological⟩
      refine ⟨fun entry member => nodeIssues_eq_nil_iff.mpr ⟨rules entry member, ?_⟩, order, ?_⟩
      · intro need needed
        refine ⟨closed entry member need needed, ?_⟩
        rintro rfl
        -- a node of an order stands behind itself, so it cannot need itself
        have inOrder : entry.1 ∈ order :=
          topological.perm.mem_iff.mpr (List.mem_map_of_mem member)
        obtain ⟨front, back, same, first⟩ := List.eq_append_cons_of_mem inOrder
        refine first (topological.before front entry.1 back same ?_)
        unfold declaredNeeds
        rw [lookup_of_mem distinct member]
        exact needed
      · rw [needs_eq_declaredNeeds closed]
        exact topological
  · have run := @Dependencies.explore_visits _ _ _ _ _ cycleIssue (@needs_closed document)
    exact ⟨_, run, fun other again => (again.unique run), rfl⟩

/-- A gate and a command that waits for it. -/
def gatedCheck : WorkflowDocument :=
  { metadata := { id := "w", version := "1.0.0" }, inputs := [], defaultAttemptBudget := none
    nodes := [("check", {
        kind := .command, needs := some ["gate"], role := none, output := "o"
        attemptPolicy := none, mutation := none
        command := some { argv := ["true"], cwd := none, maxDuration := "1m"
                          maxOutputBytes := none } }),
      ("gate", {
        kind := .gate, needs := none, role := none, output := "o", attemptPolicy := none
        mutation := none, command := none })] }

/-- The dependent may be listed first. -/
theorem gatedCheck_topological : validateWorkflowDocument gatedCheck = true ∧
    ∃ order, Dependencies.Topological gatedCheck.declaredNeeds gatedCheck.nodeIds order :=
  ⟨by decide, ((assertSemanticValidity_exact gatedCheck (by decide)).1.mp rfl).2.2⟩

end WorkflowDocument

end Anastom
