import Anastom.Persistence.ExactlyOnce
import Mathlib.Data.List.Induction

/-! What calls do to the history of a run while one token is the one in its lease record:
only commits under that token write, and each writes at the end. -/
namespace Anastom
open Fencing

namespace Journal

theorem enter_prefix (journal : Journal) (committed : Option Committed) :
    journal <+: journal.enter committed := by
  cases committed with
  | none => exact List.prefix_rfl
  | some committed =>
    rw [enter]
    cases Keyed.find journal committed.mutation.operationId with
    | some _ => exact List.prefix_rfl
    | none => exact List.prefix_append _ _

theorem events_prefix {journal more : Journal} (grown : journal <+: more) :
    journal.events <+: more.events := by
  obtain ⟨rest, rfl⟩ := grown
  rw [events, events, List.flatMap_append]
  exact List.prefix_append _ _

end Journal

namespace StoreImplementation
variable (store : StoreImplementation)

/-- The state that a list of calls leaves, from an empty store. -/
def after (calls : List (StoreCall × Nat)) : store.State := store.finalState store.initial calls

def journal (calls : List (StoreCall × Nat)) (runId : String) : Journal :=
  Journal.ofTrace runId (store.trace store.initial calls)

theorem finalState_append (state : store.State) (calls more : List (StoreCall × Nat)) :
    store.finalState state (calls ++ more) =
      store.finalState (store.finalState state calls) more := by
  induction calls generalizing state with
  | nil => rfl
  | cons entry rest ih => exact ih _

theorem trace_append (state : store.State) (calls more : List (StoreCall × Nat)) :
    store.trace state (calls ++ more) =
      store.trace state calls ++ store.trace (store.finalState state calls) more := by
  induction calls generalizing state with
  | nil => rfl
  | cons entry rest ih => exact congrArg _ (ih _)

theorem after_concat (calls : List (StoreCall × Nat)) (call : StoreCall) (clock : Nat) :
    store.after (calls ++ [(call, clock)]) = (store.perform call clock (store.after calls)).2 :=
  store.finalState_append _ _ _

theorem journal_concat (calls : List (StoreCall × Nat)) (call : StoreCall) (clock : Nat)
    (runId : String) : store.journal (calls ++ [(call, clock)]) runId =
      (store.journal calls runId).enter
        (committedBy runId call (store.perform call clock (store.after calls)).1) := by
  rw [journal, trace_append, Journal.ofTrace, List.foldl_append]
  rfl

theorem journal_prefix (calls more : List (StoreCall × Nat)) (runId : String) :
    store.journal calls runId <+: store.journal (calls ++ more) runId := by
  induction more using List.reverseRecOn with
  | nil => exact ⟨[], by simp⟩
  | append_singleton more entry ih =>
    obtain ⟨call, clock⟩ := entry
    rw [← List.append_assoc, journal_concat]
    exact ih.trans (Journal.enter_prefix _ _)

/-- The token is the one in the lease record of its run. -/
def InForce (state : store.State) (token : RunLeaseToken) : Prop :=
  (store.lease state token.runId).map RunLease.token = some token

/-- The lease record of a token's run holds the token or a later one. -/
def HasGranted (state : store.State) (token : RunLeaseToken) : Prop :=
  Granted RunLeaseToken.generation token ((store.lease state token.runId).map RunLease.held)

variable {store} {state : store.State} {token : RunLeaseToken}

theorem inForce_held : store.InForce state token ↔
    ((store.lease state token.runId).map RunLease.held).map Held.token = some token := by
  rw [InForce, Option.map_map]
  rfl

theorem InForce.hasGranted (held : store.InForce state token) : store.HasGranted state token := by
  obtain ⟨lease, found, same⟩ := Option.map_eq_some_iff.mp held
  exact ⟨lease.held, by rw [found]; rfl, .inl same⟩

theorem Fences.hasGranted (fences : store.Fences) (call : StoreCall) (clock : Nat)
    (before : store.HasGranted state token) :
    store.HasGranted (store.perform call clock state).2 token :=
  (fences.step call clock state token.runId).granted before

theorem Fences.still_held (fences : store.Fences) {call : StoreCall} {clock : Nat}
    (before : store.HasGranted state token)
    (now : store.InForce (store.perform call clock state).2 token) :
    store.InForce state token ∧
      ∀ newer, leaseAct token.runId call (store.perform call clock state).1 ≠ .grant newer := by
  obtain ⟨held, quiet⟩ :=
    (fences.step call clock state token.runId).still_held before (inForce_held.mp now)
  exact ⟨inForce_held.mpr held, quiet⟩

end StoreImplementation

theorem MemoryStore.perform_created {platform : Platform} {input : CreateOwnedRun} {clock : Nat}
    {store next : MemoryStore} {result : StoreResult}
    (performed : perform platform (.createOwned input) clock store = (.ok result, next)) :
    validateCreateOwnedRun platform input = .ok () ∧
      store.recorded input.runId input.operationId = none ∧
      ∃ receipt, result = .created receipt ∧ receipt.lease.runId = input.runId := by
  simp only [perform, Action.tag_ok] at performed
  obtain ⟨receipt, created, rfl⟩ := performed
  obtain ⟨valid, absent, _, _, rfl, _⟩ := createOwned_ok.mp created
  exact ⟨valid, by rw [recorded, absent]; rfl, _, rfl, rfl⟩

theorem SqliteStore.perform_created {platform : Platform} {input : CreateOwnedRun} {clock : Nat}
    {db next : SqliteStore} {result : StoreResult}
    (performed : perform platform (.createOwned input) clock db = (.ok result, next)) :
    validateCreateOwnedRun platform input = .ok () ∧
      db.recorded input.runId input.operationId = none ∧
      ∃ receipt, result = .created receipt ∧ receipt.lease.runId = input.runId := by
  simp only [perform, Action.tag_ok] at performed
  obtain ⟨receipt, created, rfl⟩ := performed
  obtain ⟨valid, _, _, _, _, absent, rfl, _⟩ := createOwned_ok created
  exact ⟨valid, by rw [recorded, absent]; rfl, _, rfl, rfl⟩

theorem MemoryStore.perform_committed {platform : Platform} {input : FencedRunMutation}
    {clock : Nat} {store next : MemoryStore} {result : StoreResult}
    (performed : perform platform (.commit input) clock store = (.ok result, next)) :
    input.Valid ∧ positive clock = true ∧ ∃ receipt, result = .committed receipt := by
  simp only [perform, Action.tag_ok] at performed
  obtain ⟨receipt, committed, rfl⟩ := performed
  obtain ⟨_, _, valid, clockValid, _⟩ := commit_ok committed
  exact ⟨validateMutation_ok.mp valid, clockValid, receipt, rfl⟩

theorem SqliteStore.perform_committed {platform : Platform} {input : FencedRunMutation}
    {clock : Nat} {db next : SqliteStore} {result : StoreResult}
    (performed : perform platform (.commit input) clock db = (.ok result, next)) :
    input.Valid ∧ positive clock = true ∧ ∃ receipt, result = .committed receipt := by
  simp only [perform, Action.tag_ok] at performed
  obtain ⟨receipt, committed, rfl⟩ := performed
  obtain ⟨_, _, _, valid, clockValid, _⟩ := commit_ok committed
  exact ⟨validateMutation_ok.mp valid, clockValid, receipt, rfl⟩

/-- What a store answers to the calls that write events. -/
structure StoreImplementation.Answers (platform : Platform) (store : StoreImplementation) :
    Prop where
  created : ∀ input clock state result,
    (store.perform (.createOwned input) clock state).1 = .ok result →
    validateCreateOwnedRun platform input = .ok () ∧
      store.recorded state input.runId input.operationId = none ∧
      ∃ receipt, result = .created receipt ∧ receipt.lease.runId = input.runId
  committed : ∀ input clock state result,
    (store.perform (.commit input) clock state).1 = .ok result →
    input.Valid ∧ positive clock = true ∧ ∃ receipt, result = .committed receipt

namespace StoreImplementation
variable {store : StoreImplementation} {hash : Hash} {Inv : store.State → Prop}
  {calls : List (StoreCall × Nat)} {token : RunLeaseToken} {clock : Nat} {platform : Platform}

theorem Journals.history (journals : store.Journals hash Inv) (calls : List (StoreCall × Nat))
    (runId : String) :
    store.history (store.after calls) runId = (store.journal calls runId).events :=
  (journals.reached runId calls).2.history

theorem Journals.history_prefix (journals : store.Journals hash Inv)
    (calls more : List (StoreCall × Nat)) (runId : String) :
    store.history (store.after calls) runId <+:
      store.history (store.after (calls ++ more)) runId := by
  rw [journals.history, journals.history]
  exact Journal.events_prefix (store.journal_prefix calls more runId)

/-- While a token is in force, only a commit under it writes to the history of its run. -/
theorem Journals.other_call (journals : store.Journals hash Inv) (fences : store.Fences)
    (answers : store.Answers platform) {call : StoreCall}
    (granted : store.HasGranted (store.after calls) token)
    (other : ∀ input, call = .commit input → input.lease ≠ token)
    (now : store.InForce (store.after (calls ++ [(call, clock)])) token) :
    store.InForce (store.after calls) token ∧
      store.history (store.after (calls ++ [(call, clock)])) token.runId =
        store.history (store.after calls) token.runId := by
  rw [store.after_concat] at now
  obtain ⟨held, quiet⟩ := fences.still_held granted now
  refine ⟨held, ?_⟩
  rw [journals.history, journals.history, store.journal_concat]
  -- Anything entered would be a creation, which grants a token, or a commit under this one.
  suffices none_entered : committedBy token.runId call
      (store.perform call clock (store.after calls)).1 = none by rw [none_entered]; rfl
  cases performed : (store.perform call clock (store.after calls)).1 with
  | error failure => exact committedBy_error _ _ _
  | ok result =>
    rw [performed] at quiet
    cases call with
    | createOwned input =>
      obtain ⟨_, _, receipt, rfl, sameRun⟩ := answers.created _ _ _ _ performed
      refine if_neg fun same => quiet receipt.lease ?_
      exact if_pos (sameRun.trans same)
    | commit input =>
      obtain ⟨_, _, receipt, rfl⟩ := answers.committed _ _ _ _ performed
      refine if_neg fun same => ?_
      obtain ⟨lease, found, live⟩ := fences.live _ _ _ _ _ performed rfl
      rw [InForce, ← same, found] at held
      exact other input rfl (live.1.symm.trans (Option.some.inj held))
    | _ => rfl

/-- A commit under a token that the store accepts finds the token in force and appends its
events, provided it expects the sequence that the history has and no recorded payload is
confused with its own. -/
theorem Journals.own_commit (journals : store.Journals hash Inv) (fences : store.Fences)
    (answers : store.Answers platform) {input : FencedRunMutation} {result : StoreResult}
    (own : input.lease = token)
    (expected : store.InForce (store.after calls) token →
      input.expectedSequence = (store.history (store.after calls) token.runId).length)
    (separates : ∀ committed ∈ store.journal calls token.runId,
      hash.Separates input committed.mutation)
    (accepted : (store.perform (.commit input) clock (store.after calls)).1 = .ok result) :
    store.InForce (store.after calls) token ∧
      store.history (store.after (calls ++ [(.commit input, clock)])) token.runId =
        store.history (store.after calls) token.runId ++ input.events := by
  subst own
  obtain ⟨valid, clockValid, receipt, rfl⟩ := answers.committed _ _ _ _ accepted
  obtain ⟨lease, found, live⟩ := fences.live _ _ _ _ _ accepted rfl
  have held : store.InForce (store.after calls) input.lease := by
    rw [InForce, found, Option.map_some, live.1]
  refine ⟨held, ?_⟩
  have inv : Inv (store.after calls) := (journals.reached input.lease.runId calls).1
  have keeps : store.Keeps hash (store.after calls) input.lease.runId
      (store.journal calls input.lease.runId) := (journals.reached input.lease.runId calls).2
  have entered : committedBy input.lease.runId (.commit input) (.ok (.committed receipt)) =
      some ⟨input, receipt⟩ := if_pos rfl
  rw [journals.history, journals.history, store.journal_concat, accepted, entered, Journal.enter]
  cases known : Keyed.find (store.journal calls input.lease.runId) input.operationId with
  | none => simp only [Journal.events, List.flatMap_append, List.flatMap_singleton]
  | some original =>
    -- A retry would repeat events that the history already has behind the expected sequence.
    exfalso
    have retried := journals.retried input clock _ _ original inv keeps known
      ⟨lease, found, live⟩ clockValid valid
    have outcome := congrArg Prod.fst retried
    rw [accepted] at outcome
    by_cases same : mutationPayloadDigest hash input = mutationPayloadDigest hash original.mutation
    · have member := Keyed.find_mem known
      have originalValid := (keeps.valid original member).1
      have payload := (mutationPayload_same originalValid.expectedSequence).mp
        (separates original member same)
      obtain ⟨event, rest, batch⟩ := List.exists_cons_of_ne_nil originalValid.events
      have first : event.sequence = input.expectedSequence + 1 := by
        have sequences := originalValid.sequences
        rw [batch, ← payload.expectedSequence] at sequences
        exact (List.cons.inj sequences).1
      have stored : event.sequence ∈ (store.journal calls input.lease.runId).events.map
          RunEvent.sequence := by
        refine List.mem_map_of_mem (List.mem_flatMap.mpr ⟨original, member, ?_⟩)
        rw [batch]
        exact List.mem_cons_self
      have bound := keeps.sequences ▸ stored
      rw [first, expected held, journals.history, List.mem_range'_1] at bound
      omega
    · rw [if_neg same] at outcome
      cases outcome

theorem Journals.failed_commit (journals : store.Journals hash Inv) {input : FencedRunMutation}
    {failure : Failure}
    (failed : (store.perform (.commit input) clock (store.after calls)).1 = .error failure) :
    store.after (calls ++ [(.commit input, clock)]) = store.after calls := by
  rw [store.after_concat]
  exact journals.throws input clock _ failure failed

/-- A run that has just been created has its initial events, under the lease of the receipt. -/
theorem Journals.created (journals : store.Journals hash Inv) (fences : store.Fences)
    (answers : store.Answers platform) {input : CreateOwnedRun} {receipt : OwnedRunReceipt}
    (created : (store.perform (.createOwned input) clock (store.after calls)).1 =
      .ok (.created receipt)) :
    receipt.lease.runId = input.runId ∧
      store.InForce (store.after (calls ++ [(.createOwned input, clock)])) receipt.lease ∧
      store.history (store.after (calls ++ [(.createOwned input, clock)])) input.runId =
        input.initialEvents := by
  obtain ⟨valid, unrecorded, other, same, sameRun⟩ := answers.created _ _ _ _ created
  cases same
  refine ⟨sameRun, ?_, ?_⟩
  · have step := fences.step (.createOwned input) clock (store.after calls) receipt.lease.runId
    have granted : leaseAct receipt.lease.runId (.createOwned input)
        (.ok (.created receipt)) = .grant receipt.lease := if_pos rfl
    rw [created, granted] at step
    rw [inForce_held, store.after_concat]
    generalize (store.lease (store.perform (.createOwned input) clock (store.after calls)).2
      receipt.lease.runId).map RunLease.held = now at step
    generalize (store.lease (store.after calls) receipt.lease.runId).map RunLease.held = before
      at step
    cases step
    rfl
  · have keeps : store.Keeps hash (store.after calls) input.runId
        (store.journal calls input.runId) := (journals.reached input.runId calls).2
    have kept : store.Keeps hash (store.after (calls ++ [(.createOwned input, clock)])) input.runId
        (store.journal (calls ++ [(.createOwned input, clock)]) input.runId) :=
      (journals.reached input.runId _).2
    have entered : committedBy input.runId (.createOwned input) (.ok (.created receipt)) =
        some ⟨creationMutation input, receipt.mutation⟩ := if_pos rfl
    have unknown : Keyed.find (store.journal calls input.runId)
        (creationMutation input).operationId = none := keeps.absent unrecorded
    have grown : (store.journal (calls ++ [(.createOwned input, clock)]) input.runId).events =
        (store.journal calls input.runId).events ++ input.initialEvents := by
      rw [store.journal_concat, created, entered, Journal.enter, unknown]
      simp only [Journal.events, List.flatMap_append, List.flatMap_singleton]
      rfl
    -- The initial events count from one, so nothing can stand before them.
    have batch := (creationMutation_valid valid).sequences
    obtain ⟨event, rest, initial⟩ :=
      List.exists_cons_of_ne_nil (creationMutation_valid valid).events
    have first : event.sequence = 1 := by
      rw [initial] at batch
      exact (List.cons.inj batch).1
    have sequences := kept.sequences
    have empty : (store.journal calls input.runId).events = [] := by
      have there := congrArg
        (fun sequences => sequences[(store.journal calls input.runId).events.length]?) sequences
      have initial : input.initialEvents = event :: rest := initial
      rw [grown, initial] at there
      simp [first] at there
      exact there
    rw [kept.history, grown, empty, List.nil_append]

end StoreImplementation

theorem durableStore_answers (platform : Platform) (kind : StoreKind) :
    (durableStore platform kind).Answers platform := by
  cases kind with
  | memory =>
    exact ⟨fun _ _ _ _ performed => MemoryStore.perform_created (Prod.ext performed rfl),
      fun _ _ _ _ performed => MemoryStore.perform_committed (Prod.ext performed rfl)⟩
  | sqlite =>
    exact ⟨fun _ _ _ _ performed => SqliteStore.perform_created (Prod.ext performed rfl),
      fun _ _ _ _ performed => SqliteStore.perform_committed (Prod.ext performed rfl)⟩

theorem durableStore_journals (platform : Platform) (kind : StoreKind) :
    ∃ Inv, (durableStore platform kind).Journals platform.hash Inv := by
  cases kind with
  | memory => exact ⟨_, memoryImplementation_journals platform⟩
  | sqlite => exact ⟨_, sqliteImplementation_journals platform⟩

end Anastom
