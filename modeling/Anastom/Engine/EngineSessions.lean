import Anastom.Engine.EngineProgress

/-! Whole sessions of the engine, from the creation of a run to its end: what it proposes is
accepted as long as nothing unfavourable happens, and is not when an operation awaited after
its deadline throws. -/
namespace Anastom
open Driver WorkflowEngine

namespace WorkflowEngine
variable (options : WorkflowEngineOptions)

def tickTimes (runId : String) : Nat → EngineM σ Unit
  | 0 => pure ()
  | n + 1 => do
    let _ ← tick options runId
    tickTimes runId n

/-- A run from its creation, through single ticks, on to its end. -/
def session (workflow : WorkflowDefinition) (create : CreateRunOptions) (single ticks : Nat) :
    EngineM σ RunState := do
  let state ← createRun options workflow create
  tickTimes options state.runId single
  runToCompletion options state.runId ticks

end WorkflowEngine

/-- All attempts a workflow may make. -/
def WorkflowDefinition.totalAttempts (workflow : WorkflowDefinition) : Nat :=
  (workflow.nodeOrder.map workflow.maxAttempts).sum

variable {workflow : WorkflowDefinition} {conditions : Prop} {options : WorkflowEngineOptions}
  {start : RunState} {table : RunTable} {σ : Type} {s : σ} {runId : String}
  {create : CreateRunOptions} {single ticks : Nat}

theorem tickTimes_meets (formed : workflow.WellFormed) (ready : Ready workflow runId start table) :
    Meets (engineContract workflow conditions) (tickTimes options runId single : EngineM σ Unit) s
      table (Either (fun _ t v => t = s ∧ ∃ state, Ready workflow runId state v)
        fun _ _ _ => True) := by
  induction single generalizing start table s with
  | zero => exact ⟨rfl, start, ready⟩
  | succ n ih =>
    refine meets_bind.mpr ((tick_meets formed ready).imp ?_)
    rintro (failure | next) t v holds
    · trivial
    obtain ⟨rfl, ticked⟩ := holds
    exact ih ticked.ready

/-- A session pays what the engine owes, and ends with its run when nothing fails. -/
theorem session_meets (formed : workflow.WellFormed) (enough : workflow.totalAttempts ≤ ticks) :
    Meets (engineContract workflow conditions)
      (session options workflow create single ticks : EngineM σ RunState) s table
      (Either (fun final _ _ => final.Ended) fun _ _ _ => True) := by
  refine meets_bind.mpr ((createRun_meets formed).imp ?_)
  rintro (failure | state) t v holds
  · trivial
  obtain ⟨rfl, ready, _⟩ := holds
  refine meets_bind.mpr ((tickTimes_meets formed ready).imp ?_)
  rintro (failure | ⟨⟩) t v holds
  · trivial
  obtain ⟨rfl, next, ready⟩ := holds
  refine (runToCompletion_meets formed ready fun _ => ?_).imp ?_
  · exact (remaining_le workflow next).trans enough
  · rintro (failure | final) t v holds
    · trivial
    · exact holds.2.2

/-- How calls are answered when nothing unfavourable happens. -/
def EngineCall.Favoured (c : EngineCall) (table : RunTable) (answer : c.Answer) (next : RunTable) :
    Prop :=
  c.Answers table answer next ∧ c.Favourable table answer

/-- What the engine owes makes a favourable answer an accepted one. -/
theorem EngineCall.Favoured.accepted {c : EngineCall} {answer : c.Answer} {next : RunTable}
    (favoured : c.Favoured table answer next) (owed : c.Owes workflow True table) :
    c.Accepted answer := by
  cases c
  case materializeEvents current runId payloads =>
    obtain ⟨⟨_, rfl⟩, fits⟩ := favoured
    exact owed.1 trivial fits
  all_goals trivial

/-- Every batch of every favoured session is accepted. -/
theorem session_proposals_accepted (authored : workflow.Authored)
    (enough : workflow.totalAttempts ≤ ticks) {exchanges : List (Exchange engineInterface RunTable)}
    {rest : Program engineInterface (Except Failure RunState × σ)} {final : RunTable}
    (runs : Program.Runs EngineCall.Favoured (session options workflow create single ticks s) table
      exchanges rest final) :
    ∀ exchange ∈ exchanges, EngineCall.Accepted exchange.call exchange.answer := by
  have meets := @session_meets workflow True options table σ s create single ticks
    authored.wellFormed enough
  have included (c : EngineCall) (w : RunTable) (answer : c.Answer) (v : RunTable)
      (owed : c.Owes workflow True w) (got : c.Favoured w answer v) :
      (engineContract workflow True).gets c w answer v :=
    ⟨got.1, got.accepted owed, fun _ => got.2⟩
  obtain ⟨paid, _⟩ := Program.Meets.runs (Program.Meets.restrict meets included) runs
  intro exchange member
  exact (Program.Runs.answered runs exchange member).accepted (paid exchange member)

/-- One gate that may take a second. -/
def gateDocument : WorkflowDocument :=
  { metadata := { id := "w", version := "1.0.0" }, inputs := [], defaultAttemptBudget := none
    nodes := [("a", {
      kind := .gate, needs := none, role := none, output := "o", mutation := none, command := none
      attemptPolicy := some { maxAttempts := none, maxDuration := some "1s" } })] }

def gateWorkflow : WorkflowDefinition :=
  { metadata := { id := "w", version := "1.0.0" }, sourcePath := "/w", inputs := []
    defaultAttemptBudget := { maxAttempts := 1, maxDurationMs := none }
    nodeOrder := ["a"]
    nodes := [("a", {
      id := "a", kind := .gate, needs := [], role := none, output := { ref := "o", schema := .null }
      attemptBudget := { maxAttempts := 1, maxDurationMs := some 1000 }, mutation := none
      command := none })]
    task := none }

/-- Schemas that accept everything. -/
def anySchema : Ajv := { compiles := fun _ => true, errors := fun _ _ => [] }

theorem gateWorkflow_authored : gateWorkflow.Authored := by
  refine ⟨⟨fun _ => .ok gateDocument, fun _ => []⟩, "", ⟨fun _ => "/w", fun _ ref => ref,
    fun _ => .ok .null, fun _ => ""⟩, anySchema, gateDocument, "", gateWorkflow, ?_, ?_, rfl⟩
  · rfl
  · rfl

/-- A store that keeps runs, for surroundings whose other answers are given. -/
def storing (surroundings : (c : EngineCall) → c.Answer) :
    (c : EngineCall) → RunTable → c.Answer × RunTable
  | .load runId, table => (.ok (table runId), table)
  | .create runId run, table =>
    if (table runId).isNone then (.ok (), Function.update table runId (some run))
    else (.error (.error "Run exists"), table)
  | .append runId expectedSequence events, table =>
    match table runId with
    | some run =>
      if run.events.length = expectedSequence then
        (.ok (), Function.update table runId (some { run with events := run.events ++ events }))
      else (.error (.error "Conflict"), table)
    | none => (.error (.runNotFound runId), table)
  | .materializeEvents current runId payloads, table =>
    (materializeEvents current runId payloads, table)
  | c, table => (surroundings c, table)

/-- A runtime that starts an attempt only after its deadline. -/
def lateRuntime (late : Except Failure (Option ExecutionResult)) : (c : EngineCall) → c.Answer
  | .createRunId => "r"
  | .capabilities | .load _ | .create .. | .append .. | .materializeEvents .. | .writeArtifact _
  | .executeCommand .. | .captureWorkspace _ => .error (.error "unavailable")
  | .start request =>
    if request.budget.maxDurationMs.isSome then .expired else .threw (.error "unavailable")
  | .events _ => ⟨[], .threw (.error "unavailable")⟩
  | .collect _ => .threw (.error "unavailable")
  | .overdue _ => false
  | .handle _ => true
  | .cancel _ => .succeeded
  | .late _ => late

theorem storing_lateRuntime (late : Except Failure (Option ExecutionResult)) (c : EngineCall)
    (table : RunTable) : c.Answers table (storing (lateRuntime late) c table).1
      (storing (lateRuntime late) c table).2 := by
  cases c
  case create runId run =>
    simp only [storing]
    split
    · rename_i absent
      exact ⟨Option.isNone_iff_eq_none.mp absent, rfl⟩
    · rfl
  case append runId expectedSequence events =>
    simp only [storing]
    split
    · rename_i run found
      split
      · rename_i same
        exact ⟨run, found, same, rfl⟩
      · rfl
    · rfl
  case load runId => exact ⟨rfl, fun _ same => (Except.ok.inj same).symm⟩
  case materializeEvents => exact ⟨rfl, rfl⟩
  case start request =>
    refine ⟨rfl, fun expired => ?_⟩
    by_contra unlimited
    simp [storing, lateRuntime, unlimited] at expired
  case writeArtifact | executeCommand | events | collect | overdue =>
    exact ⟨rfl, by simp [storing, lateRuntime]⟩
  all_goals rfl

/-- A fake engine without artifacts. -/
def fakeEngine : WorkflowEngineOptions :=
  { runtimeId := "fake", executionMode := .fake, artifacts := false, captureWorkspace := false
    ajv := anySchema, schemaError := fun _ => "" }

/-- The session of the gate under such a runtime. -/
def lateSession (late : Except Failure (Option ExecutionResult)) :
    List (Exchange engineInterface RunTable) :=
  Program.play (storing (lateRuntime late)) 40
    (session fakeEngine gateWorkflow { runId := some "r" } 0 1 ()) fun _ => none

/-- Whether the reducer rejects a proposed batch as an invalid transition. -/
def rejected (exchange : Exchange engineInterface RunTable) : Bool :=
  match exchange with
  | ⟨_, .materializeEvents .., .error (.invalidTransition _), _⟩ => true
  | _ => false

/-- Whether nothing in an exchange is unfavourable, as far as a session without captures goes. -/
def calm (exchange : Exchange engineInterface RunTable) : Bool :=
  match exchange with
  | ⟨_, .append .., answer, _⟩ => answer.toBool
  | ⟨_, .late _, answer, _⟩ => answer.toBool
  | ⟨_, .captureWorkspace _, _, _⟩ => false
  | ⟨_, .materializeEvents (some state) _ payloads, _, _⟩ =>
    decide (state.sequence + payloads.length ≤ maxSafeInteger)
  | _ => true

theorem calm_favourable {exchange : Exchange engineInterface RunTable}
    (quiet : calm exchange = true) :
    EngineCall.Favourable exchange.call exchange.before exchange.answer := by
  obtain ⟨before, c, answer, after⟩ := exchange
  cases c
  case append =>
    rintro ⟨failure, rfl⟩
    cases quiet
  case late =>
    cases answer with
    | error failure => cases quiet
    | ok result => exact ⟨result, rfl⟩
  case captureWorkspace => cases quiet
  case materializeEvents current runId payloads =>
    cases current with
    | none => trivial
    | some state => exact .inr (of_decide_eq_true quiet)
  all_goals trivial

theorem lateSession_answered (late : Except Failure (Option ExecutionResult)) :
    ∀ exchange ∈ lateSession late,
      EngineCall.Answers exchange.call exchange.before exchange.answer exchange.after :=
  Program.play_answered (fun c w => storing_lateRuntime late c w) _ _ _

theorem lateSession_favoured : ∃ rest final, Program.Runs EngineCall.Favoured
    (session fakeEngine gateWorkflow { runId := some "r" } 0 1 () :
      Program engineInterface (Except Failure RunState × Unit))
    (fun _ => none) (lateSession (.ok none)) rest final := by
  have quiet : (lateSession (.ok none)).all calm = true := by decide +kernel
  exact Program.runs_play fun exchange member =>
    ⟨lateSession_answered _ exchange member, calm_favourable (List.all_eq_true.mp quiet _ member)⟩

theorem session_proposals_accepted_late : lateSession (.ok none) ≠ [] ∧
    ∀ exchange ∈ lateSession (.ok none), EngineCall.Accepted exchange.call exchange.answer := by
  obtain ⟨rest, final, runs⟩ := lateSession_favoured
  refine ⟨?_, session_proposals_accepted gateWorkflow_authored (by decide) runs⟩
  decide +kernel

theorem rejected_notAccepted {exchange : Exchange engineInterface RunTable}
    (refused : rejected exchange = true) :
    ¬ EngineCall.Accepted exchange.call exchange.answer := by
  obtain ⟨before, c, answer, after⟩ := exchange
  cases c
  case materializeEvents =>
    rintro ⟨transition, rfl⟩
    cases refused
  all_goals cases refused

/-- An operation that throws after its deadline fails the attempt for an unknown reason, which
its recorded timeout does not admit. -/
theorem session_proposal_rejected : ∃ workflow : WorkflowDefinition, workflow.Authored ∧
    ∃ options create exchanges rest final,
      Program.Runs EngineCall.Answers
        (session options workflow create 0 workflow.totalAttempts () :
          Program engineInterface (Except Failure RunState × Unit))
        (fun _ => none) exchanges rest final ∧
      ∃ exchange ∈ exchanges, ¬ EngineCall.Accepted exchange.call exchange.answer := by
  let late : Except Failure (Option ExecutionResult) := .error (.error "collect failed")
  have refused : (lateSession late).any rejected = true := by decide +kernel
  obtain ⟨exchange, member, refused⟩ := List.any_eq_true.mp refused
  obtain ⟨rest, final, runs⟩ := Program.runs_play (lateSession_answered late)
  exact ⟨gateWorkflow, gateWorkflow_authored, fakeEngine, { runId := some "r" }, lateSession late,
    rest, final, runs, exchange, member, rejected_notAccepted refused⟩

/-- How calls are answered when the reducer accepts what is proposed; the rest may go wrong. -/
def EngineCall.Agreed (c : EngineCall) (table : RunTable) (answer : c.Answer) (next : RunTable) :
    Prop :=
  c.Answers table answer next ∧ c.Accepted answer

/-- A running graph that is loaded has a ready node, and an attempt starts only when its needs
have succeeded and its inputs are there. -/
def EngineCall.Progresses (workflow : WorkflowDefinition) : EngineCall → RunTable → Prop
  | .load runId, table => ∀ run state, table runId = some run → replayRun run.events = .ok state →
      state.status = .running → findReadyNodes workflow state ≠ []
  | .materializeEvents current _ payloads, _ => ∀ state ∈ current, StartsFed workflow state payloads
  | _, _ => True

theorem EngineCall.Owes.progresses {c : EngineCall} (owed : c.Owes workflow conditions table) :
    c.Progresses workflow table := by
  cases c
  case load => exact owed
  case materializeEvents => exact owed.2
  all_goals trivial

/-- Whatever a runtime, a workspace and a store answer, a session whose proposals the reducer
accepts never finds a running graph without a ready node, starts attempts only when they are
fed, comes to an end within as many ticks as the workflow may make attempts, and, unless it
throws, ends with a run that has succeeded exactly when each of its nodes has. -/
theorem session_progress (authored : workflow.Authored) (enough : workflow.totalAttempts ≤ ticks)
    {exchanges : List (Exchange engineInterface RunTable)}
    {rest : Program engineInterface (Except Failure RunState × σ)} {final : RunTable}
    (runs : Program.Runs EngineCall.Agreed (session options workflow create single ticks s) table
      exchanges rest final) :
    (∀ exchange ∈ exchanges, EngineCall.Progresses workflow exchange.call exchange.before) ∧
      rest ≠ .cut ∧ ∀ state t, rest = .done (.ok state, t) → state.Ended := by
  have meets := @session_meets workflow False options table σ s create single ticks
    authored.wellFormed enough
  have included (c : EngineCall) (w : RunTable) (answer : c.Answer) (v : RunTable)
      (_ : c.Owes workflow False w) (got : c.Agreed w answer v) :
      (engineContract workflow False).gets c w answer v := ⟨got.1, got.2, False.elim⟩
  obtain ⟨paid, later⟩ := Program.Meets.runs (Program.Meets.restrict meets included) runs
  refine ⟨fun exchange member => (paid exchange member).progresses, ?_, ?_⟩
  · rintro rfl
    exact later
  · rintro state t rfl
    exact later

/-- Whether the reducer has not rejected anything in an exchange. -/
def agreed (exchange : Exchange engineInterface RunTable) : Bool :=
  match exchange with
  | ⟨_, .materializeEvents .., answer, _⟩ => answer.toBool
  | _ => true

theorem agreed_accepted {exchange : Exchange engineInterface RunTable}
    (fine : agreed exchange = true) : EngineCall.Accepted exchange.call exchange.answer := by
  obtain ⟨before, c, answer, after⟩ := exchange
  cases c
  case materializeEvents =>
    cases answer with
    | error failure => cases fine
    | ok transition => exact ⟨transition, rfl⟩
  all_goals trivial

theorem session_progress_late : lateSession (.ok none) ≠ [] ∧
    ∀ exchange ∈ lateSession (.ok none),
      EngineCall.Progresses gateWorkflow exchange.call exchange.before := by
  have fine : (lateSession (.ok none)).all agreed = true := by decide +kernel
  have answered (exchange : Exchange engineInterface RunTable)
      (member : exchange ∈ lateSession (.ok none)) :
      EngineCall.Agreed exchange.call exchange.before exchange.answer exchange.after :=
    ⟨lateSession_answered _ exchange member, agreed_accepted (List.all_eq_true.mp fine _ member)⟩
  obtain ⟨rest, final, runs⟩ := Program.runs_play answered
  refine ⟨?_, (session_progress gateWorkflow_authored (by decide) runs).1⟩
  decide +kernel

end Anastom
