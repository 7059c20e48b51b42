import Anastom.Engine.EngineAttempts

/-! Ticks of the engine under its contract: each leaves the graph scheduled again with one
attempt less to go, or the run ended. -/
namespace Anastom
open Driver WorkflowEngine
variable {workflow : WorkflowDefinition} {conditions : Prop} {options : WorkflowEngineOptions}
  {request : ExecutionRequest} {start state : RunState} {timeout : Option TimeoutState}
  {usageSeen : Bool} {table : RunTable} {node : WorkflowNode} {σ : Type} {s : σ}

def startsAttempt : RunEventPayload → Bool
  | .attemptStarted .. => true
  | _ => false

theorem StartsFed.of_idle {payloads : List RunEventPayload}
    (idle : ∀ payload ∈ payloads, startsAttempt payload = false) :
    StartsFed workflow state payloads := by
  intro nodeId attempt member
  cases idle _ member

/-- What a tick leaves: a run that has ended, or a scheduled graph after one more attempt. -/
structure Turned (workflow : WorkflowDefinition) (start : RunState) (request : ExecutionRequest)
    (next : RunState) (table : RunTable) : Prop where
  stores : table.Stores workflow request.runId next
  turn : next.Ended ∨ next.Scheduled workflow ∧ start.Attempted request.nodeId next

section commits
variable {payloads : List RunEventPayload} {runId : String}

/-- A commit followed by more: the rest goes on from the stored batch. -/
theorem commit_bind {β : Type} {next : RunState → EngineM σ β}
    {Q : β → σ → RunTable → Prop} (stores : table.Stores workflow runId state)
    (admits : conditions → state.HasRoom payloads → state.AdmitsAll payloads)
    (fed : StartsFed workflow state payloads)
    (continues : ∀ v, state.AdmitsAll payloads →
      v.Stores workflow runId (state.afterAll payloads) →
      Meets (engineContract workflow conditions) (next (state.afterAll payloads)) s v
        (Either Q fun _ _ _ => True)) :
    Meets (engineContract workflow conditions) (commit runId state payloads >>= next) s table
      (Either Q fun _ _ _ => True) := by
  refine meets_bind.mpr ((commit_meets stores admits fed).imp ?_)
  rintro (failure | reached) t v holds
  · trivial
  · obtain ⟨rfl, rfl, admitted, stored⟩ := holds
    exact continues v admitted stored

theorem commit_last {Q : RunState → RunTable → Prop}
    (stores : table.Stores workflow runId state)
    (admits : conditions → state.HasRoom payloads → state.AdmitsAll payloads)
    (fed : StartsFed workflow state payloads)
    (reached : ∀ v, v.Stores workflow runId (state.afterAll payloads) →
      Q (state.afterAll payloads) v) :
    Meets (engineContract workflow conditions) (commit runId state payloads : EngineM σ RunState) s
      table (Either (fun next t v => t = s ∧ Q next v) fun _ _ _ => True) := by
  refine (commit_meets stores admits fed).imp ?_
  rintro (failure | next) t v holds
  · trivial
  · obtain ⟨rfl, rfl, _, stored⟩ := holds
    exact ⟨rfl, reached v stored⟩

end commits

theorem blocked_idle {held : RunState} {nodeId reason : String} :
    ∀ payload ∈ blockedNodePayloads held nodeId reason, startsAttempt payload = false := by
  intro payload member
  obtain ⟨_, _, rfl⟩ := List.mem_map.mp member
  rfl

theorem cancelled_idle {held : RunState} {nodeId reason : String} :
    ∀ payload ∈ cancellablePayloads held nodeId reason, startsAttempt payload = false := by
  intro payload member
  obtain ⟨_, _, rfl⟩ := List.mem_map.mp member
  rfl

theorem finishFailed_meets {failure : ExecutionFailure} {unsafeToRetry : Bool}
    (stores : table.Stores workflow request.runId state)
    (active : start.Active request.nodeId request.attempt timeout usageSeen state)
    (selected : start.Selected workflow request.nodeId request.attempt)
    (found : workflow.node? request.nodeId = some node)
    (due : conditions → ∀ requested ∈ timeout,
      failure.category = .budgetExhausted ∧ requested.cancellation.isSome = true) :
    Meets (engineContract workflow conditions)
      (finishFailed request node state unsafeToRetry failure : EngineM σ RunState) s table
      (Either (fun next t v => t = s ∧ Turned workflow start request next v) fun _ _ _ => True) := by
  refine commit_bind stores (fun good _ => ⟨active.admits_fail (due good), trivial⟩)
    (StartsFed.of_idle (by simp [startsAttempt])) fun v _ stores => ?_
  have stopped := active.fail failure
  split
  · rename_i retry
    simp only [Bool.and_eq_true, decide_eq_true_eq] at retry
    have budget : request.attempt < workflow.maxAttempts request.nodeId := by
      simp only [WorkflowDefinition.maxAttempts, found, Option.map_some, Option.getD_some]
      exact retry.2
    obtain ⟨admits, scheduled, attempted⟩ := stopped.retryNode selected budget
    exact commit_last stores (fun _ _ => admits) (StartsFed.of_idle (by simp [startsAttempt]))
      fun v stores => ⟨stores, .inr ⟨scheduled, attempted⟩⟩
  · obtain ⟨admits, failed⟩ := stopped.failNode failure
    refine commit_bind stores (fun _ _ => admits) (StartsFed.of_idle (by simp [startsAttempt]))
      fun v _ stores => ?_
    obtain ⟨admits, ended⟩ := failed.finishFailed stores.distinct
    refine commit_last stores (fun _ _ => admits) (StartsFed.of_idle fun payload member => ?_)
      fun v stores => ⟨stores, .inl ended⟩
    rcases List.mem_append.mp member with blocked | last
    · exact blocked_idle payload blocked
    · rw [List.mem_singleton.mp last]
      rfl

theorem ready_idle : ∀ payload ∈ readyPayloads workflow state, startsAttempt payload = false := by
  intro payload member
  obtain ⟨_, _, rfl⟩ := List.mem_map.mp member
  rfl

theorem finishSucceeded_meets {output : JsonValue} (formed : workflow.WellFormed)
    (stores : table.Stores workflow request.runId state)
    (active : start.Active request.nodeId request.attempt timeout usageSeen state)
    (selected : start.Selected workflow request.nodeId request.attempt)
    (unexpired : conditions → timeout = none) :
    Meets (engineContract workflow conditions)
      (finishSucceeded request workflow state output : EngineM σ RunState) s table
      (Either (fun next t v => t = s ∧ Turned workflow start request next v) fun _ _ _ => True) := by
  obtain ⟨admits, rested, held⟩ := active.finishNode selected output
  refine commit_bind stores (fun good _ => admits (unexpired good))
    (StartsFed.of_idle (by simp [startsAttempt])) fun v _ stores => ?_
  refine commit_bind stores (fun _ _ => rested.admits_ready formed)
    (StartsFed.of_idle ready_idle) fun v _ stores => ?_
  have attempted : start.Attempted request.nodeId (RunState.afterAll _ (readyPayloads workflow _)) :=
    fun id => (RunState.Resting.ready_attempts formed id).trans
      (held.attempted selected (fun _ count => count) id)
  split
  · rename_i finished
    obtain ⟨admits, ended⟩ := (rested.makeReady formed).complete finished
    exact commit_last stores (fun _ _ => admits) (StartsFed.of_idle (by simp [startsAttempt]))
      fun v stores => ⟨stores, .inl ended⟩
  · rename_i unfinished
    exact ⟨rfl, stores,
      .inr ⟨rested.schedule formed (eq_false_of_ne_true unfinished) stores.distinct, attempted⟩⟩

theorem finishAttempt_meets {executed : AttemptLocals} (formed : workflow.WellFormed)
    (held : Held workflow conditions start request executed table)
    (selected : start.Selected workflow request.nodeId request.attempt)
    (found : workflow.node? request.nodeId = some node) :
    Meets (engineContract workflow conditions)
      (finishAttempt options request workflow node executed : EngineM σ RunState) s table
      (Either (fun next t v => t = s ∧ Turned workflow start request next v) fun _ _ _ => True) := by
  obtain ⟨timeout, usageSeen, attempting, settled⟩ := held
  have stores := attempting.stores
  have active := attempting.active
  -- A result other than a failure rules a recorded timeout out.
  have unexpired (other : ∀ failure, executed.result ≠ .failed failure) (good : conditions) :
      timeout = none := by
    refine Option.eq_none_iff_forall_ne_some.mpr fun requested member => ?_
    obtain ⟨_, failure, same, _⟩ := settled good requested member
    exact other failure same
  unfold finishAttempt
  simp only
  split
  · rename_i reason blocked
    obtain ⟨admits, ended⟩ := active.finishBlocked stores.distinct reason
    refine commit_last stores (fun good _ => admits (unexpired (by simp [blocked]) good))
      (StartsFed.of_idle fun payload member => ?_) fun v stores => ⟨stores, .inl ended⟩
    rcases List.mem_append.mp member with first | last
    · rcases List.mem_append.mp first with node | others
      · simp only [List.mem_cons, List.not_mem_nil, or_false] at node
        rcases node with rfl | rfl <;> rfl
      · exact blocked_idle payload others
    · rw [List.mem_singleton.mp last]
      rfl
  · rename_i reason cancelled
    obtain ⟨admits, ended⟩ := active.finishCancelled selected.toResting stores.distinct reason
    refine commit_last stores (fun good _ => admits (unexpired (by simp [cancelled]) good))
      (StartsFed.of_idle fun payload member => ?_) fun v stores => ⟨stores, .inl ended⟩
    rcases List.mem_append.mp member with first | last
    · rcases List.mem_append.mp first with node | others
      · simp only [List.mem_cons, List.not_mem_nil, or_false] at node
        rcases node with rfl | rfl <;> rfl
      · exact cancelled_idle payload others
    · rw [List.mem_singleton.mp last]
      rfl
  · rename_i failure failed
    refine finishFailed_meets stores active selected found fun good requested member => ?_
    obtain ⟨answered, other, same, category⟩ := settled good requested member
    rw [failed, ExecutionResult.failed.injEq] at same
    exact ⟨same ▸ category, answered⟩
  · rename_i output succeeded
    have unexpired := unexpired (by simp [succeeded])
    split
    · refine finishFailed_meets stores active selected found fun good requested member => ?_
      rw [unexpired good] at member
      cases member
    · exact finishSucceeded_meets formed stores active selected unexpired

section tick
variable {runId nodeId : String} {number : Nat}

/-- A selected attempt starts with its inputs there. -/
theorem schedule_fed (stores : table.Stores workflow runId start)
    (selected : start.Selected workflow nodeId number)
    (found : workflow.node? nodeId = some node) (runtimeId : String) :
    StartsFed workflow start [.attemptScheduled nodeId number runtimeId,
      .attemptStarted nodeId number] := by
  intro id attempt member
  obtain ⟨rfl, rfl⟩ : id = nodeId ∧ attempt = number := by simpa using member
  refine ⟨selected.ready.1, fun workspace => ?_⟩
  obtain ⟨_, only, _⟩ := (selected.executes runtimeId).node
  refine buildContext_ok found fun need needed => ?_
  have needs : need ∈ workflow.needs id := by
    simpa [WorkflowDefinition.needs, found] using needed
  obtain ⟨dependency, present, succeeded⟩ := selected.ready.1 need needs
  have other : need ≠ id := by
    rintro rfl
    exact selected.open' ⟨dependency, present, succeeded⟩
  obtain ⟨_, replayed⟩ := stores.replayed
  have coherent := replayRun_coherent replayed (Keyed.find_mem present)
  obtain ⟨output, produced⟩ :=
    Option.isSome_iff_exists.mp (coherent.output.mpr (coherent.finished succeeded))
  exact ⟨dependency, output, (only.elsewhere other).trans present, produced⟩

/-- What a tick leaves, whatever node it chose. -/
structure Ticked (workflow : WorkflowDefinition) (runId : String) (start next : RunState)
    (table : RunTable) : Prop where
  stores : table.Stores workflow runId next
  turn : next.Ended ∨ next.Scheduled workflow ∧ remaining workflow next < remaining workflow start

theorem tickNode_meets (formed : workflow.WellFormed) (stores : table.Stores workflow runId start)
    (scheduled : start.Scheduled workflow) (ready : nodeId ∈ findReadyNodes workflow start) :
    Meets (engineContract workflow conditions)
      (tickNode options runId workflow start nodeId : EngineM σ RunState) s table
      (Either (fun next t v => t = s ∧ Ticked workflow runId start next v) fun _ _ _ => True) := by
  obtain ⟨inOrder, nodeState, present, status⟩ := mem_findReadyNodes.mp ready
  obtain ⟨node, found⟩ := formed.present nodeId inOrder
  have selected : start.Selected workflow nodeId (nodeState.attempts.length + 1) :=
    ⟨scheduled, nodeState, present, status, rfl⟩
  have numbered (room : start.sequence < maxSafeInteger) :
      positive (nodeState.attempts.length + 1) = true := by
    obtain ⟨_, replayed⟩ := stores.replayed
    have := replayRun_attempts replayed present
    rw [positive_iff]
    omega
  unfold tickNode
  refine meets_lift_bind.mpr ?_
  rw [found]
  refine meets_lift_bind.mpr ?_
  rw [present]
  refine commit_bind stores (fun _ room => selected.admits_schedule (numbered ?_) _)
    (schedule_fed stores selected found _) fun v admitted stored => ?_
  · simp only [RunState.HasRoom, List.length_cons, List.length_nil, reduceCtorEq, false_or] at room
    omega
  let runtimeId := if runsCommand options node then "command" else options.runtimeId
  have fed := (schedule_fed stores selected found runtimeId nodeId (nodeState.attempts.length + 1)
    (by simp)).2
  have executes := selected.executes runtimeId
  generalize start.afterAll _ = state at executes stored fed ⊢
  obtain ⟨context, built⟩ := fed (state.workspace.getD (.memory (runId ++ ":memory")))
  refine meets_lift_bind.mpr ?_
  rw [built]
  simp only [Either]
  let request := executionRequest state nodeId node (nodeState.attempts.length + 1) context
  have named : request.runId = runId := stored.runId
  have stored : v.Stores workflow request.runId state := named ▸ stored
  refine meets_bind.mpr ((@executeAttempt_meets workflow conditions options request start v σ s node
    state stored ⟨executes, admitted.1.valid⟩).imp ?_)
  rintro (failure | executed) t v held
  · exact held.elim
  obtain ⟨rfl, held⟩ := held
  refine (finishAttempt_meets formed held selected found).imp ?_
  rintro (failure | next) t v holds
  · trivial
  obtain ⟨rfl, stores, turn⟩ := holds
  refine ⟨rfl, named ▸ stores, turn.imp_right ?_⟩
  rintro ⟨again, attempted⟩
  exact ⟨again, attempted.remaining_lt selected⟩

/-- The run of a driver between two ticks: over, or with a scheduled graph. -/
structure Ready (workflow : WorkflowDefinition) (runId : String) (state : RunState)
    (table : RunTable) : Prop where
  stores : table.Stores workflow runId state
  turn : state.Ended ∨ state.Scheduled workflow

theorem Ready.alive (ready : Ready workflow runId state table) (formed : workflow.WellFormed)
    (running : state.status = .running) : state.Scheduled workflow ∧
      findReadyNodes workflow state ≠ [] := by
  rcases ready.turn with ended | scheduled
  · exact absurd running ended.status
  · exact ⟨scheduled, scheduled.ready formed⟩

theorem Ticked.ready (ticked : Ticked workflow runId start state table) :
    Ready workflow runId state table :=
  ⟨ticked.stores, ticked.turn.imp_right And.left⟩

theorem requireRun_meets (ready : Ready workflow runId state table) (formed : workflow.WellFormed) :
    Meets (engineContract workflow conditions) (requireRun runId : EngineM σ PersistedRun) s table
      (Either (fun run t v => t = s ∧ v = table ∧ run.workflow = workflow ∧
        replayRun run.events = .ok state) fun _ _ _ => True) := by
  refine meets_ask_bind.mpr ⟨fun run found present replayed running => ?_, ?_⟩
  · obtain ⟨_, same⟩ := ready.stores.load present
    rw [same, Except.ok.injEq] at replayed
    subst replayed
    exact (ready.alive formed running).2
  · rintro (failure | loaded) v ⟨⟨same, answered⟩, _⟩
    · trivial
    obtain rfl : table = v := same.symm
    refine meets_lift_bind.mpr ?_
    cases loaded with
    | none => trivial
    | some run =>
      obtain ⟨sameWorkflow, replayed⟩ := ready.stores.load (answered _ rfl).symm
      exact ⟨rfl, rfl, sameWorkflow, replayed⟩

theorem tick_meets (formed : workflow.WellFormed) (ready : Ready workflow runId start table) :
    Meets (engineContract workflow conditions) (tick options runId : EngineM σ RunState) s table
      (Either (fun next t v => t = s ∧ Ticked workflow runId start next v) fun _ _ _ => True) := by
  refine meets_bind.mpr ((requireRun_meets ready formed).imp ?_)
  rintro (failure | run) t v holds
  · trivial
  obtain ⟨rfl, rfl, rfl, replayed⟩ := holds
  refine meets_lift_bind.mpr ?_
  rw [replayed]
  simp only [Either]
  split
  · rename_i stopped
    rcases ready.turn with ended | scheduled
    · exact ⟨rfl, ready.stores, .inl ended⟩
    · rw [scheduled.status] at stopped
      cases stopped
  · rename_i running
    obtain ⟨scheduled, some'⟩ := ready.alive formed (by simpa using running)
    split
    · rename_i none'
      exact absurd (List.head?_eq_none_iff.mp none') some'
    · rename_i nodeId first
      exact tickNode_meets formed ready.stores scheduled (List.mem_of_head? first)

theorem advance_ended (ended : state.Ended) (ticks : Nat) :
    (advance options runId ticks state : EngineM σ RunState) = pure state := by
  unfold advance
  rw [if_pos (bne_iff_ne.mpr ended.status)]

/-- Within the attempts that are left, the run comes to its end. -/
theorem advance_meets {ticks : Nat} (formed : workflow.WellFormed)
    (ready : Ready workflow runId state table)
    (enough : state.Scheduled workflow → remaining workflow state ≤ ticks) :
    Meets (engineContract workflow conditions) (advance options runId ticks state : EngineM σ RunState)
      s table (Either (fun final t v => t = s ∧ v.Stores workflow runId final ∧ final.Ended)
        fun _ _ _ => True) := by
  induction ticks generalizing state table s with
  | zero =>
    rcases ready.turn with ended | scheduled
    · rw [advance_ended ended]
      exact ⟨rfl, ready.stores, ended⟩
    · have some' := scheduled.remaining_pos formed
      have none' := enough scheduled
      omega
  | succ ticks ih =>
    rcases ready.turn with ended | scheduled
    · rw [advance_ended ended]
      exact ⟨rfl, ready.stores, ended⟩
    · unfold advance
      rw [if_neg (by simp [scheduled.status])]
      refine meets_bind.mpr ((requireRun_meets ready formed).imp ?_)
      rintro (failure | run) t v holds
      · trivial
      obtain ⟨rfl, rfl, rfl, _⟩ := holds
      have some' := scheduled.ready formed
      simp only [Either]
      rw [if_neg (by simpa using some')]
      refine meets_bind.mpr ((tick_meets formed ready).imp ?_)
      rintro (failure | next) t v holds
      · trivial
      obtain ⟨rfl, ticked⟩ := holds
      refine ih ticked.ready fun again => ?_
      have left := enough scheduled
      rcases ticked.turn with ended | ⟨_, fewer⟩
      · exact absurd again.status ended.status
      · omega

theorem runToCompletion_meets {ticks : Nat} (formed : workflow.WellFormed)
    (ready : Ready workflow runId state table)
    (enough : state.Scheduled workflow → remaining workflow state ≤ ticks) :
    Meets (engineContract workflow conditions) (runToCompletion options runId ticks : EngineM σ RunState)
      s table (Either (fun final t v => t = s ∧ v.Stores workflow runId final ∧ final.Ended)
        fun _ _ _ => True) := by
  refine meets_bind.mpr (meets_bind.mpr ((requireRun_meets ready formed).imp ?_))
  rintro (failure | run) t v holds
  · trivial
  obtain ⟨rfl, rfl, _, replayed⟩ := holds
  refine meets_lift.mpr ?_
  rw [replayed]
  exact advance_meets formed ready enough

end tick

theorem negotiate_meets {create : CreateRunOptions} :
    Meets (engineContract workflow conditions)
      (negotiate options workflow create : EngineM σ (Option RuntimeNegotiation)) s table
      (Either (fun negotiation t v => t = s ∧ v = table ∧
        ∀ n ∈ negotiation, n.capabilities.valid = true) fun _ _ _ => True) := by
  unfold negotiate
  split
  · exact ⟨rfl, rfl, by rintro _ ⟨⟩⟩
  refine meets_lift_bind.mpr ?_
  cases checkWorkerRun options workflow create.workspace with
  | error failure => trivial
  | ok mode =>
  have probed : Meets (engineContract workflow conditions)
      (probeOnce options create mode : EngineM σ RuntimeNegotiation) s table
      (Either (fun _ t v => t = s ∧ v = table) fun _ _ _ => True) := by
    unfold probeOnce
    split
    · exact ⟨rfl, rfl⟩
    · refine meets_ask_bind.mpr ⟨trivial, fun capabilities v answered => ?_⟩
      obtain rfl : table = v := answered.1.symm
      refine meets_lift.mpr ?_
      cases probeRuntime capabilities options.runtimeId mode with
      | error failure => trivial
      | ok negotiation => exact ⟨rfl, rfl⟩
  refine meets_bind.mpr (probed.imp ?_)
  rintro (failure | negotiation) t v holds
  · trivial
  obtain ⟨rfl, rfl⟩ := holds
  refine meets_lift_bind.mpr ?_
  cases accepted : assertRuntimeNegotiation negotiation options.runtimeId mode with
  | error failure => trivial
  | ok u =>
    refine ⟨rfl, rfl, ?_⟩
    rintro n ⟨⟩
    exact assertRuntimeNegotiation_valid accepted

theorem proposed_meets {current : Option RunState} {runId : String}
    {payloads : List RunEventPayload}
    (owed : (EngineCall.materializeEvents current runId payloads).Owes workflow conditions table) :
    Meets (engineContract workflow conditions)
      (proposed current runId payloads : EngineM σ (List RunEvent × RunState)) s table
      (Either (fun transition t v => t = s ∧ v = table ∧
        materializeEvents current runId payloads = .ok transition) fun _ _ _ => True) := by
  refine meets_ask_bind.mpr ⟨owed, ?_⟩
  rintro _ v ⟨⟨same, rfl⟩, ⟨transition, accepted⟩, _⟩
  obtain rfl : table = v := same.symm
  have accepted : materializeEvents current runId payloads = .ok transition := accepted
  refine meets_lift.mpr ?_
  rw [accepted]
  exact ⟨rfl, rfl, rfl⟩

/-- The first batches of a run: its boundaries, then the nodes that need nothing. -/
theorem createdRun_scheduled {runId rootId : String} {inputs : List (String × JsonValue)}
    {negotiation : Option RuntimeNegotiation} {workspace : Option WorkspaceRef}
    (formed : workflow.WellFormed) (valid : ∀ n ∈ negotiation, n.capabilities.valid = true) :
    let created := createdRun workflow runId rootId inputs
    let initial := boundaryPayloads negotiation workspace ++ readyPayloads workflow created
    created.AdmitsAll initial ∧
      (Keyed.Distinct (created.afterAll initial).nodes →
        (created.afterAll initial).Scheduled workflow) := by
  intro created initial
  obtain ⟨admits, rested, same⟩ :=
    @createdRun_boundary workflow runId rootId inputs negotiation workspace valid
  have readies : readyPayloads workflow created =
      readyPayloads workflow (created.afterAll (boundaryPayloads negotiation workspace)) :=
    congrArg (List.map _) (findExecutableNodes_congr fun id => (same id).symm)
  simp only [initial, admitsAll_append, afterAll_append, readies]
  refine ⟨⟨admits, rested.admits_ready formed⟩, fun distinct => rested.schedule formed ?_ distinct⟩
  obtain ⟨id, inOrder⟩ := List.exists_mem_of_ne_nil _ formed.nonempty
  obtain ⟨node, found⟩ := ((rested.makeReady formed).named id).mpr inOrder
  refine List.all_eq_false.mpr ⟨node, Keyed.find_mem found, fun succeeded => ?_⟩
  obtain ⟨before, present, status⟩ := (RunState.Resting.ready_hasSucceeded formed).mp
    ⟨node, found, by simpa using succeeded⟩
  obtain ⟨_, rfl⟩ := createdRun_node?.mp ((same id).symm.trans present)
  cases status

theorem createRun_meets {create : CreateRunOptions} (formed : workflow.WellFormed) :
    Meets (engineContract workflow conditions)
      (createRun options workflow create : EngineM σ RunState) s table
      (Either (fun state t v => t = s ∧ Ready workflow state.runId state v ∧
        state.Scheduled workflow) fun _ _ _ => True) := by
  refine meets_bind.mpr (negotiate_meets.imp ?_)
  rintro (failure | negotiation) t v holds
  · trivial
  obtain ⟨rfl, rfl, valid⟩ := holds
  refine meets_lift_bind.mpr ?_
  cases validateInputs options workflow (create.inputs.getD []) with
  | error failure => trivial
  | ok u =>
  have chosen : Meets (engineContract workflow conditions) (chooseRunId create : EngineM σ String) t v
      (Either (fun _ t' v' => t' = t ∧ v' = v) fun _ _ _ => True) := by
    unfold chooseRunId
    split
    · exact ⟨rfl, rfl⟩
    · exact meets_ask.mpr ⟨trivial, fun _ _ answered => ⟨rfl, answered.1⟩⟩
  refine meets_bind.mpr (chosen.imp ?_)
  rintro (failure | runId) t v holds
  · trivial
  obtain ⟨rfl, rfl⟩ := holds
  have creation : (EngineCall.materializeEvents none runId [.runCreated (runId ++ ":root")
      workflow.metadata.id workflow.metadata.version workflow.nodeOrder
      (create.inputs.getD [])]).Owes workflow conditions v :=
    ⟨fun _ _ => ⟨_, (materializeEvents_created formed).mpr ⟨rfl, rfl⟩⟩, by rintro _ ⟨⟩⟩
  refine meets_bind.mpr ((proposed_meets creation).imp ?_)
  rintro (failure | ⟨createdEvents, created⟩) t v holds
  · trivial
  obtain ⟨rfl, rfl, materialized⟩ := holds
  obtain ⟨_, rfl⟩ := (materializeEvents_created formed).mp materialized
  obtain ⟨_, _, creationFold⟩ := materializeEvents_fold materialized
  let created := createdRun workflow runId (runId ++ ":root") (create.inputs.getD [])
  let initial := boundaryPayloads negotiation create.workspace ++ readyPayloads workflow created
  obtain ⟨admits, scheduled⟩ := @createdRun_scheduled workflow runId (runId ++ ":root")
    (create.inputs.getD []) negotiation create.workspace formed valid
  have idle : ∀ payload ∈ initial, startsAttempt payload = false := by
    intro payload member
    rcases List.mem_append.mp member with boundary | ready
    · rcases List.mem_append.mp boundary with negotiated | assigned
      · obtain ⟨_, _, rfl⟩ := Option.map_eq_some_iff.mp (Option.mem_toList.mp negotiated)
        rfl
      · obtain ⟨_, _, rfl⟩ := Option.map_eq_some_iff.mp (Option.mem_toList.mp assigned)
        rfl
    · exact ready_idle payload ready
  have initialization : (EngineCall.materializeEvents (some created) runId initial).Owes workflow
      conditions v := by
    refine ⟨fun _ room => ?_, ?_⟩
    · obtain ⟨events, materialized⟩ := materializeEvents_admits.mpr ⟨admits, room, rfl⟩
      exact ⟨_, materialized⟩
    · rintro _ ⟨⟩
      exact StartsFed.of_idle idle
  refine meets_bind.mpr ((proposed_meets initialization).imp ?_)
  rintro (failure | ⟨initialEvents, initialized⟩) t v holds
  · trivial
  obtain ⟨rfl, rfl, materialized⟩ := holds
  have accepted : materializeEvents (some created) created.runId initial =
      .ok (initialEvents, initialized) := materialized
  obtain ⟨_, _, rfl⟩ := materializeEvents_admits.mp ⟨initialEvents, accepted⟩
  obtain ⟨_, _, initialFold⟩ := materializeEvents_fold accepted
  have replayed : replayRun (createdEvents ++ initialEvents) = .ok (created.afterAll initial) :=
    replayRun_ok.mpr (foldEvents_append_ok.mpr ⟨_, creationFold, initialFold⟩)
  have named : (created.afterAll initial).runId = runId := afterAll_runId
  refine meets_ask_bind.mpr ⟨trivial, ?_⟩
  rintro (failure | ⟨⟩) v ⟨answered, _⟩
  · trivial
  obtain ⟨_, rfl⟩ := answered
  have scheduled := scheduled (replayRun_distinct replayed)
  refine ⟨rfl, ⟨⟨⟨_, ?_, replayed⟩, rfl⟩, .inr scheduled⟩, scheduled⟩
  rw [named]
  exact Function.update_self ..

end Anastom
