import Anastom.Engine.EngineRuns

/-! An attempt of the engine under its contract: whatever the runtime, the workspace and the
artifact store answer, the attempt is still the running one of a stored run afterwards, and
a recorded timeout is matched by the local result. -/
namespace Anastom
open Driver WorkflowEngine
variable {workflow : WorkflowDefinition} {conditions : Prop} {options : WorkflowEngineOptions}
  {request : ExecutionRequest} {start : RunState} {timeout : Option TimeoutState}
  {usageSeen : Bool} {locals : AttemptLocals} {table : RunTable}

/-- The filter lets usage through once. -/
theorem accept_new {filter next : RuntimeObservationFilter} {event : RuntimeEvent}
    (accepted : filter.accept event = .ok (true, next)) :
    (reportsUsage event = true → filter.usageSeen = false) ∧
      next.usageSeen = (filter.usageSeen || reportsUsage event) := by
  cases event <;> simp only [RuntimeObservationFilter.accept, Bool.false_and, Bool.true_and,
    Bool.false_eq_true, if_false] at accepted
  case started | log | completed =>
    obtain ⟨_, rfl⟩ := Prod.mk.inj (Except.ok.inj accepted)
    exact ⟨nofun, (Bool.or_false _).symm⟩
  case metadata value =>
    split at accepted
    · cases accepted
    · obtain ⟨_, rfl⟩ := Prod.mk.inj (Except.ok.inj accepted)
      exact ⟨nofun, rfl⟩
  case usage value =>
    split at accepted
    · cases accepted
    · split at accepted
      · cases accepted
      · rename_i unseen
        obtain ⟨_, rfl⟩ := Prod.mk.inj (Except.ok.inj accepted)
        exact ⟨fun _ => by simpa using unseen, rfl⟩

theorem accept_seen {filter next : RuntimeObservationFilter} {event : RuntimeEvent}
    (accepted : filter.accept event = .ok (false, next)) : next = filter := by
  cases event <;> simp only [RuntimeObservationFilter.accept] at accepted
  case started | log | completed => cases accepted
  case metadata value =>
    split at accepted
    · exact (Prod.mk.inj (Except.ok.inj accepted)).2.symm
    · split at accepted <;> cases accepted
  case usage value =>
    split at accepted
    · exact (Prod.mk.inj (Except.ok.inj accepted)).2.symm
    · split at accepted <;> cases accepted

/-- An attempt whose timeout, if one is recorded, is matched by a result. -/
def Matched (workflow : WorkflowDefinition) (conditions : Prop) (start : RunState)
    (request : ExecutionRequest) (result : ExecutionResult) (l : AttemptLocals) (v : RunTable) :
    Prop :=
  ∃ timeout usageSeen, l.Attempting workflow start request timeout usageSeen v ∧
    (conditions → TimeoutSettled timeout result)

/-- An attempt without a recorded timeout, as far as the conditions say. -/
def Unexpired (workflow : WorkflowDefinition) (conditions : Prop) (start : RunState)
    (request : ExecutionRequest) (l : AttemptLocals) (v : RunTable) : Prop :=
  ∃ timeout usageSeen, l.Attempting workflow start request timeout usageSeen v ∧
    (conditions → timeout = none)

theorem observationFailure_meets {filter next : RuntimeObservationFilter} {event : RuntimeEvent}
    (attempting : locals.Attempting workflow start request none filter.usageSeen table)
    (valid : event.valid = true) (accepted : filter.accept event = .ok (true, next)) :
    Meets (engineContract workflow conditions) (observationFailure request event) locals table
      (Either (fun failed l v => ∃ usageSeen, l.Attempting workflow start request none usageSeen v ∧
        (failed = none → usageSeen = next.usageSeen)) fun _ _ _ => False) := by
  obtain ⟨first, grown⟩ := accept_new accepted
  refine meets_tryCatch.mpr (meets_bind.mpr ((observe_meets attempting valid first).imp ?_))
  rintro (failure | ⟨⟩) l v holds
  · exact ⟨_, holds.1, nofun⟩
  · exact ⟨_, holds.1, fun _ => grown.symm⟩

theorem observeAll_meets {filter : RuntimeObservationFilter} {events : List RuntimeEvent}
    (attempting : locals.Attempting workflow start request none filter.usageSeen table) :
    Meets (engineContract workflow conditions) (observeAll request filter events) locals table
      fun _ l v => ∃ usageSeen, l.Attempting workflow start request none usageSeen v := by
  induction events generalizing filter locals table with
  | nil => exact ⟨_, attempting⟩
  | cons event rest ih =>
    unfold observeAll
    split
    · exact ⟨_, attempting⟩
    · rename_i valid
      split
      · exact ⟨_, attempting⟩
      · rename_i next accepted
        obtain rfl := accept_seen accepted
        exact ih attempting
      · rename_i next accepted
        refine meets_bind.mpr
          ((observationFailure_meets attempting (by simpa using valid) accepted).imp ?_)
        rintro (failure | stored) l v holds
        · exact holds.elim
        obtain ⟨seen, attempting, grown⟩ := holds
        cases stored with
        | none => exact ih (grown rfl ▸ attempting)
        | some failure =>
          simp only [Either]
          refine meets_ask_bind.mpr ⟨trivial, fun overdue u answered => ?_⟩
          obtain rfl : u = v := answered.1.1
          cases overdue <;> exact ⟨_, attempting⟩

/-- A question about the attempt that leaves everything as it is. -/
theorem still_meets {α : Type} {x : EngineM AttemptLocals α} {s : AttemptLocals} {v : RunTable}
    {Q : Except Failure α → AttemptLocals → RunTable → Prop}
    (still : Meets (engineContract workflow conditions) x s v
      (Either (fun _ t u => t = s ∧ u = v) fun _ _ _ => False))
    (each : ∀ a, Q (.ok a) s v) : Meets (engineContract workflow conditions) x s v Q := by
  refine still.imp ?_
  rintro (failure | a) t u holds
  · exact holds.elim
  · obtain ⟨rfl, rfl⟩ := holds
    exact each a

/-- After the deadline the timeout, its cancellation and a late result are recorded in turn. -/
theorem timedOut_meets {started : Bool}
    (attempting : locals.Attempting workflow start request none usageSeen table) :
    Meets (engineContract workflow conditions) (timedOut request started) locals table (Either
      (fun execution l v => Matched workflow conditions start request execution.result l v)
      fun _ l v => Unexpired workflow conditions start request l v) := by
  refine meets_bind.mpr ((record_meets attempting (by rintro _ _ ⟨⟩)
    (fun _ => attempting.active.admits_timeout) attempting.active.record_timeout).imp ?_)
  rintro (failure | ⟨⟩) l v holds
  · obtain ⟨rfl, rfl, _⟩ := holds
    exact ⟨none, usageSeen, attempting, fun _ => rfl⟩
  obtain ⟨_, requested⟩ := holds
  refine meets_bind.mpr (still_meets ?_ fun handle => ?_)
  · cases started with
    | true => exact ⟨rfl, rfl⟩
    | false => exact ⟨trivial, fun _ _ answered => ⟨rfl, answered.1⟩⟩
  refine meets_bind.mpr (still_meets ?_ fun cancelled => ?_)
  · cases handle with
    | true => exact ⟨trivial, fun _ _ answered => ⟨rfl, answered.1⟩⟩
    | false => exact ⟨rfl, rfl⟩
  refine meets_bind.mpr ((record_meets requested (by rintro _ _ ⟨⟩)
    (fun _ => requested.active.admits_cancellation rfl)
    (requested.active.record_cancellation _)).imp ?_)
  rintro (failure | ⟨⟩) l v holds
  · obtain ⟨rfl, rfl, harmless⟩ := holds
    exact ⟨_, _, requested, fun good => Bool.noConfusion (harmless good)⟩
  obtain ⟨_, answered⟩ := holds
  have settled {t : TimeoutState} (cancelled : t.cancellation.isSome = true) :
      TimeoutSettled (some t) (.failed {
        category := .budgetExhausted, message := "Attempt exceeded its duration limit" }) := by
    rintro _ ⟨⟩
    exact ⟨cancelled, _, rfl, rfl⟩
  refine meets_ask_bind.mpr ⟨trivial, ?_⟩
  rintro (failure | late) v' ⟨same, _, good⟩
  · obtain rfl : v' = v := same
    exact ⟨_, _, answered, fun holds => nomatch good holds⟩
  obtain rfl : v' = v := same
  refine meets_lift_bind.mpr ?_
  cases late with
  | none => exact ⟨_, _, answered, fun _ => settled rfl⟩
  | some result =>
    refine meets_bind.mpr ((record_meets answered (by rintro _ _ ⟨⟩)
      (fun _ => answered.active.admits_late rfl rfl) (answered.active.record_late _)).imp ?_)
    rintro (failure | ⟨⟩) l v holds
    · obtain ⟨rfl, rfl, harmless⟩ := holds
      exact ⟨_, _, answered, fun good => Bool.noConfusion (harmless good)⟩
    · exact ⟨_, _, holds.2, fun _ => settled rfl⟩

theorem Unexpired.of_none (attempting : locals.Attempting workflow start request none usageSeen table) :
    Unexpired workflow conditions start request locals table :=
  ⟨none, usageSeen, attempting, fun _ => rfl⟩

/-- A result of an attempt without a recorded timeout matches it. -/
theorem Unexpired.matched (unexpired : Unexpired workflow conditions start request locals table)
    (result : ExecutionResult) : Matched workflow conditions start request result locals table := by
  obtain ⟨timeout, usageSeen, attempting, fresh⟩ := unexpired
  refine ⟨timeout, usageSeen, attempting, fun good => ?_⟩
  rw [fresh good]
  exact nofun

theorem executeRuntime_meets
    (attempting : locals.Attempting workflow start request none false table) :
    Meets (engineContract workflow conditions) (executeRuntime request) locals table (Either
      (fun execution l v => Matched workflow conditions start request execution.result l v)
      fun _ l v => Unexpired workflow conditions start request l v) := by
  refine meets_ask_bind.mpr ⟨trivial, fun started v answered => ?_⟩
  obtain rfl : table = v := answered.1.1.symm
  cases started with
  | expired => exact timedOut_meets attempting
  | threw failure => exact (Unexpired.of_none attempting).matched _
  | value =>
  refine meets_ask_bind.mpr ⟨trivial, fun stream v answered => ?_⟩
  obtain rfl : table = v := answered.1.1.symm
  have streaming := @observeAll_meets workflow conditions request start locals table {} stream.events
    attempting
  refine meets_bind.mpr (streaming.imp ?_)
  rintro (failure | streamed) l v ⟨seen, observed⟩
  · exact Unexpired.of_none observed
  simp only [Either]
  cases streamed with
  | errored failure => exact (Unexpired.of_none observed).matched _
  | drained =>
  simp only
  split
  · exact timedOut_meets observed
  · exact (Unexpired.of_none observed).matched _
  · refine meets_ask_bind.mpr ⟨trivial, fun collected u answered => ?_⟩
    obtain rfl : u = v := answered.1.1
    cases collected with
    | expired => exact timedOut_meets observed
    | threw failure => exact (Unexpired.of_none observed).matched _
    | value result => exact (Unexpired.of_none observed).matched _

/-- What the attempt must still satisfy whether or not a step of it fails. -/
def Held (workflow : WorkflowDefinition) (conditions : Prop) (start : RunState)
    (request : ExecutionRequest) (l : AttemptLocals) (v : RunTable) : Prop :=
  Matched workflow conditions start request l.result l v

theorem Held.of_none (attempting : locals.Attempting workflow start request none usageSeen table) :
    Held workflow conditions start request locals table :=
  (Unexpired.of_none attempting).matched _

theorem Held.of_kept {l : AttemptLocals} {v : RunTable}
    (settled : conditions → TimeoutSettled timeout locals.result)
    (kept : Kept workflow start request timeout usageSeen locals l v) :
    Held workflow conditions start request l v :=
  ⟨timeout, usageSeen, kept.1, by rw [kept.2]; exact settled⟩

/-- An artifact is stored before the next step, or the attempt is interrupted. -/
theorem recordArtifact_bind {β : Type} {type mediaType : String} {bytes : List UInt8}
    {next : Option ArtifactRef → EngineM AttemptLocals β}
    (attempting : locals.Attempting workflow start request timeout usageSeen table)
    (settled : conditions → TimeoutSettled timeout locals.result)
    (continues : ∀ artifact l v, Kept workflow start request timeout usageSeen locals l v →
      (∀ stored ∈ artifact, l.state.hasArtifact stored.id = true) →
      Meets (engineContract workflow conditions) (next artifact) l v
        fun _ t u => Held workflow conditions start request t u) :
    Meets (engineContract workflow conditions)
      (recordArtifact options request type mediaType bytes >>= next) locals table
      fun _ t u => Held workflow conditions start request t u := by
  refine meets_bind.mpr ((recordArtifact_meets attempting).imp ?_)
  rintro (failure | artifact) l v holds
  · exact Held.of_kept settled holds
  · exact continues artifact l v holds.1 holds.2

theorem runCommand_meets {node : WorkflowNode}
    (attempting : locals.Attempting workflow start request none false table) :
    Meets (engineContract workflow conditions) (runCommand options request node) locals table
      fun _ l v => Held workflow conditions start request l v := by
  refine meets_lift_bind.mpr ?_
  cases requireSome node.command (.error "Missing command definition") with
  | error failure => exact Held.of_none attempting
  | ok command =>
  simp only [Either]
  refine meets_ask_bind.mpr ⟨trivial, ?_⟩
  rintro (failure | execution) v ⟨⟨same, valid⟩, _⟩
  · obtain rfl : table = v := same.symm
    exact Held.of_none attempting
  obtain rfl : table = v := same.symm
  have output := valid execution rfl
  refine meets_lift_bind.mpr ?_
  refine recordArtifact_bind attempting (fun _ => nofun) fun _ l v ⟨first, _⟩ _ => ?_
  refine recordArtifact_bind first (fun _ => nofun) fun _ l v ⟨second, _⟩ _ => ?_
  refine recordArtifact_bind second (fun _ => nofun) fun _ l v ⟨third, _⟩ _ => ?_
  refine meets_bind.mpr ((record_meets third (by rintro _ _ ⟨⟩)
    (fun _ => third.active.admits_command output) (third.active.record_command _)).imp ?_)
  rintro (failure | ⟨⟩) l v holds
  · obtain ⟨rfl, rfl, _⟩ := holds
    exact Held.of_none third
  · exact ⟨none, false, ⟨holds.2.stores, holds.2.active⟩, fun _ => nofun⟩

theorem runWorker_meets
    (attempting : locals.Attempting workflow start request none false table) :
    Meets (engineContract workflow conditions) (runWorker options request) locals table
      fun _ l v => Held workflow conditions start request l v := by
  refine meets_bind.mpr ((executeRuntime_meets attempting).imp ?_)
  rintro (failure | execution) l v holds
  · exact holds.matched _
  obtain ⟨timeout, usageSeen, executed, settled⟩ := holds
  have local' : AttemptLocals.Attempting workflow start request timeout usageSeen
      { l with result := execution.result, unsafeToRetry := execution.unsafeToRetry } v :=
    ⟨executed.stores, executed.active⟩
  refine recordArtifact_bind local' settled fun _ l v kept _ => ?_
  have settled : conditions → TimeoutSettled timeout l.result := by
    rw [kept.2]
    exact settled
  split
  · exact recordArtifact_bind kept.1 settled fun _ _ _ kept _ => Held.of_kept settled kept
  · exact Held.of_kept settled ⟨kept.1, rfl⟩

theorem timedOut_of_attempting {requested : TimeoutState}
    (attempting : locals.Attempting workflow start request (some requested) usageSeen table) :
    EngineCall.TimedOut request table := by
  obtain ⟨events, stored, replayed⟩ := attempting.stores.run
  obtain ⟨node, only, executes⟩ := attempting.active.node
  obtain ⟨attempt, ⟨current, _⟩, timed, _⟩ := executes.current
  exact ⟨_, _, node, attempt, stored, replayed, only.here, current, by rw [timed]; rfl⟩

/-- A readonly workspace overrides the result of an attempt that has not run past its
deadline. -/
theorem checkReadonly_held {capture : WorkspaceCapture}
    (held : Held workflow conditions start request locals table)
    (good : conditions → request.workspace.mode = .readonly → capture.changedFiles ≠ [] →
      ¬ EngineCall.TimedOut request table) :
    Meets (engineContract workflow conditions) (checkReadonly request capture) locals table
      (Either (fun _ l v => Held workflow conditions start request l v) fun _ _ _ => False) := by
  obtain ⟨timeout, usageSeen, attempting, settled⟩ := held
  unfold checkReadonly
  split
  · rename_i mutated
    simp only [Bool.and_eq_true, beq_iff_eq, Bool.not_eq_true', List.isEmpty_eq_false_iff] at mutated
    refine ⟨timeout, usageSeen, ⟨attempting.stores, attempting.active⟩, fun holds => ?_⟩
    cases timeout with
    | none => exact nofun
    | some requested =>
      exact absurd (timedOut_of_attempting attempting) (good holds mutated.1 mutated.2)
  · exact ⟨timeout, usageSeen, attempting, settled⟩

theorem observeWorkspace_meets {node : WorkflowNode}
    (held : Held workflow conditions start request locals table) :
    Meets (engineContract workflow conditions) (observeWorkspace options request node) locals table
      fun _ l v => Held workflow conditions start request l v := by
  refine meets_bind.mpr (meets_get.mpr ?_)
  simp only [Either]
  split
  · refine meets_ask_bind.mpr ⟨trivial, ?_⟩
    rintro (failure | capture) v ⟨same, _, good⟩
    · obtain rfl : table = v := same.symm
      exact held
    obtain rfl : table = v := same.symm
    refine meets_lift_bind.mpr ?_
    simp only [Either]
    refine meets_bind.mpr ((checkReadonly_held held fun holds => good holds capture rfl).imp ?_)
    rintro (failure | ⟨⟩) l v holds
    · exact holds.elim
    obtain ⟨timeout, usageSeen, attempting, settled⟩ := holds
    refine recordArtifact_bind attempting settled fun diff l v kept recorded => ?_
    cases diff with
    | none => exact Held.of_kept settled kept
    | some diff =>
      refine (record_meets kept.1 (by rintro _ _ ⟨⟩)
        (fun _ => kept.1.active.admits_workspace (recorded diff rfl))
        (kept.1.active.keepRun rfl rfl rfl)).imp ?_
      rintro (failure | ⟨⟩) l v holds
      · obtain ⟨rfl, rfl, _⟩ := holds
        exact Held.of_kept settled kept
      · obtain ⟨rfl, recorded⟩ := holds
        exact Held.of_kept settled ⟨recorded, kept.2⟩
  · exact held

/-- A failure does not replace the result of an exhausted budget. -/
theorem failAttempt_meets {failure : Failure}
    (held : Held workflow conditions start request locals table) :
    Meets (engineContract workflow conditions) (failAttempt failure) locals table
      (Either (fun _ l v => Held workflow conditions start request l v) fun _ _ _ => False) := by
  obtain ⟨timeout, usageSeen, attempting, settled⟩ := held
  refine meets_modify.mpr ?_
  simp only [Either]
  split
  · exact ⟨timeout, usageSeen, attempting, settled⟩
  · rename_i other
    refine ⟨timeout, usageSeen, ⟨attempting.stores, attempting.active⟩, ?_⟩
    intro good requested member
    obtain ⟨_, failure, same, category⟩ := settled good requested member
    obtain ⟨_, message⟩ := failure
    simp only at category
    subst category
    exact absurd same (other message)

theorem attemptNode_meets {node : WorkflowNode}
    (attempting : locals.Attempting workflow start request none false table) :
    Meets (engineContract workflow conditions) (attemptNode options request node) locals table
      fun _ l v => Held workflow conditions start request l v := by
  refine recordArtifact_bind attempting (fun _ => nofun) fun _ l v kept _ => ?_
  have ran : Meets (engineContract workflow conditions) (runNode options request node) l v
      fun _ t u => Held workflow conditions start request t u := by
    unfold runNode
    split
    · exact runCommand_meets kept.1
    · exact runWorker_meets kept.1
  refine meets_bind.mpr (ran.imp ?_)
  rintro (failure | ⟨⟩) t u held
  · exact held
  · exact observeWorkspace_meets held

/-- An attempt leaves the run with the attempt still running and a matching result. -/
theorem executeAttempt_meets {σ : Type} {s : σ} {node : WorkflowNode} {state : RunState}
    (stores : table.Stores workflow request.runId state)
    (active : start.Active request.nodeId request.attempt none false state) :
    Meets (engineContract workflow conditions)
      (executeAttempt options request node state : EngineM σ AttemptLocals) s table
      (Either (fun executed t v => t = s ∧ Held workflow conditions start request executed v)
        fun _ _ _ => False) := by
  refine meets_bind.mpr (meets_withLocals.mpr (meets_tryCatch.mpr
    ((attemptNode_meets ⟨stores, active⟩).imp ?_)))
  rintro (failure | ⟨⟩) l v held
  · simp only [Either]
    refine (failAttempt_meets held).imp ?_
    rintro (failure | ⟨⟩) l v held
    · exact held.elim
    · exact ⟨rfl, held⟩
  · exact ⟨rfl, held⟩

end Anastom
