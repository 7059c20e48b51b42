import Anastom.Persistence.Journal

/-! The in-memory store keeps the journal of every run, and its lease records stay
ones that its operations admit. -/
namespace Anastom

namespace MemoryStore
variable {platform : Platform} {store next : MemoryStore} {runId : String}

/-- Every lease record in the store is one that its operations admit. -/
def LeasesValid (store : MemoryStore) : Prop := ∀ run ∈ store.runs, run.lease.Valid

theorem leasesValid_updateRun {f : MemoryRun → MemoryRun} (valid : store.LeasesValid)
    (updated : ∀ run ∈ store.runs, (f run).lease.Valid) :
    (store.updateRun runId f).LeasesValid := by
  intro run member
  obtain ⟨before, present, ⟨_, rfl⟩ | ⟨_, rfl⟩⟩ := Keyed.mem_modify.mp member
  · exact updated before present
  · exact valid run present

theorem lease?_valid {lease : RunLease} (valid : store.LeasesValid)
    (found : store.lease? runId = some lease) : lease.Valid := by
  obtain ⟨run, present, rfl⟩ := Option.map_eq_some_iff.mp found
  exact valid run (Keyed.find_mem present)

theorem partialRenewal_valid {lease : RunLease} {clock : Nat} (valid : lease.Valid)
    (clockValid : positive clock = true) (unexpired : clock < lease.expiresAtMs) :
    ({ lease with renewedAtMs := max clock lease.renewedAtMs } : RunLease).Valid := by
  have bounded : max clock lease.renewedAtMs ≤ lease.expiresAtMs :=
    Nat.max_le.mpr ⟨Nat.le_of_lt unexpired, valid.renewed_expires⟩
  refine ⟨valid.runId, valid.ownerId, valid.generation, valid.owner, valid.acquiredAtMs, ?_,
    valid.expiresAtMs, Nat.le_trans valid.acquired_renewed (Nat.le_max_right _ _), bounded⟩
  have first := clockValid
  have second := valid.expiresAtMs
  simp only [positive, decide_eq_true_eq] at first second ⊢
  omega

theorem perform_error_leasesValid {call : StoreCall} {clock : Nat} {failure : Failure}
    (performed : perform platform call clock store = (.error failure, next))
    (valid : store.LeasesValid) : next.LeasesValid := by
  rcases perform_error_state performed with rfl | ⟨token, rfl⟩
  · exact valid
  · simp only [perform, Action.tag_error] at performed
    rcases renew_error performed with rfl | ⟨run, found, fenced, clockValid, rfl⟩
    · exact valid
    · have unexpired := (fenceLease_ok.mp fenced).2.2.2
      refine leasesValid_updateRun valid fun _ _ => ?_
      exact partialRenewal_valid (valid run (Keyed.find_mem found)) clockValid unexpired

theorem perform_ok_leasesValid {call : StoreCall} {clock : Nat} {result : StoreResult}
    (performed : perform platform call clock store = (.ok result, next))
    (valid : store.LeasesValid) : next.LeasesValid := by
  have unchanged := perform_reads performed
  cases call <;> simp only [perform, Action.tag_ok] at performed <;>
    obtain ⟨value, performed, rfl⟩ := performed
  case createOwned input =>
    obtain ⟨inputValid, _, clockValid, expiryValid, _, rfl⟩ := createOwned_ok.mp performed
    intro run member
    rcases List.mem_append.mp member with earlier | last
    · exact valid run earlier
    · rw [List.mem_singleton.mp last]
      have acquisition := (validateCreateOwnedRun_ok.mp inputValid).1
      exact GrantAllowed.valid ⟨acquisition, rfl, clockValid, expiryValid⟩
  case acquireReleased input =>
    obtain ⟨run, _, _, allowed, rfl, rfl⟩ := acquireReleased_ok performed
    exact leasesValid_updateRun valid fun _ _ => allowed.valid
  case takeoverExpired input =>
    obtain ⟨run, _, _, _, _, allowed, rfl, rfl⟩ := takeoverExpired_ok performed
    exact leasesValid_updateRun valid fun _ _ => allowed.valid
  case renew token =>
    obtain ⟨run, found, _, clockValid, expiryValid, rfl, rfl⟩ := renew_ok performed
    have current := valid run (Keyed.find_mem found)
    exact leasesValid_updateRun valid fun _ _ => current.renewed clockValid expiryValid
  case release token =>
    obtain ⟨run, found, _, rfl⟩ := release_ok performed
    exact leasesValid_updateRun valid fun run member => (valid run member).released true
  case commit input =>
    obtain ⟨run, _, _, _, _, ⟨_, _, _, _, rfl⟩ | ⟨_, _, _, _, rfl⟩⟩ := commit_ok performed
    · exact valid
    · exact leasesValid_updateRun valid valid
  case submitControl input =>
    obtain ⟨run, _, rfl | ⟨_, _, rfl⟩⟩ := submitControl_ok performed
    · exact valid
    · exact leasesValid_updateRun valid valid
  case load | inspectLease | pendingControls => exact unchanged rfl ▸ valid

theorem history_found {run : MemoryRun} (found : store.run? runId = some run) :
    store.history runId = run.events := by simp [history, found]

theorem recorded_found {run : MemoryRun} (found : store.run? runId = some run)
    (operationId : String) : store.recorded runId operationId =
      (Keyed.find run.mutations operationId).map fun mutation =>
        (mutation.payloadDigest, mutation.receipt) := by simp [recorded, found]

theorem run?_created (input : CreateOwnedRun) (clock : Nat) (other : String) :
    run? { runs := store.runs ++ [createdRun platform input clock] } other =
      (store.run? other).or
        (if other = input.runId then some (createdRun platform input clock) else none) := by
  unfold run?
  rw [Keyed.find_append, Keyed.find_cons]
  have key : Keyed.key (createdRun platform input clock) = input.runId := rfl
  by_cases same : other = input.runId
  · simp [key, same]
  · have different : input.runId ≠ other := fun equal => same equal.symm
    simp [key, same, different, Keyed.find]

/-- A call that leaves the run record, or writes neither its events nor its receipts. -/
theorem kept_of_run {journal : Journal} {other : String}
    (events : (next.run? other).map MemoryRun.events = (store.run? other).map MemoryRun.events)
    (mutations : (next.run? other).map MemoryRun.mutations =
      (store.run? other).map MemoryRun.mutations)
    (kept : (memoryImplementation platform).Keeps platform.hash store other journal) :
    (memoryImplementation platform).Keeps platform.hash next other journal := by
  refine kept.unchanged ?_ ?_
  · simp only [memoryImplementation, history, events]
  · intro operationId
    have view (state : MemoryStore) : state.recorded other operationId =
        ((state.run? other).map MemoryRun.mutations).bind fun mutations =>
          (Keyed.find mutations operationId).map fun mutation =>
            (mutation.payloadDigest, mutation.receipt) := by
      cases known : state.run? other <;> simp [recorded, known]
    show next.recorded other operationId = store.recorded other operationId
    rw [view, view, mutations]

theorem createOwned_kept {input : CreateOwnedRun} {clock : Nat} {receipt : OwnedRunReceipt}
    {journal : Journal} {other : String}
    (created : createOwned platform input clock store = (.ok receipt, next))
    (kept : (memoryImplementation platform).Keeps platform.hash store other journal) :
    (memoryImplementation platform).Keeps platform.hash next other (journal.enter
      (committedBy other (.createOwned input) (.ok (.created receipt)))) := by
  obtain ⟨inputValid, absent, _, _, rfl, rfl⟩ := createOwned_ok.mp created
  have after (other : String) : run? { runs := store.runs ++ [createdRun platform input clock] }
      other = (store.run? other).or (if other = input.runId
        then some (createdRun platform input clock) else none) := run?_created input clock other
  by_cases same : input.runId = other
  · subst same
    have found := after input.runId
    rw [absent, Option.none_or, if_pos rfl] at found
    simp only [committedBy, if_pos]
    refine kept.appended (creationMutation_valid inputValid) rfl ?_ ?_ ?_ ?_
    · simp [memoryImplementation, recorded, absent]
    · simp [memoryImplementation, history, absent, creationMutation]
    · simp only [memoryImplementation, history_found found]
      simp [history, absent, createdRun, creationMutation]
    · intro operationId
      simp only [memoryImplementation, recorded_found found]
      simp only [recorded, absent, Option.bind_none, Option.none_or]
      by_cases named : input.operationId = operationId
      · subst named
        simp [createdRun, Keyed.find, Keyed.key, creationMutation, creationReceipt, grantedLease,
          RunLease.token]
      · simp [createdRun, Keyed.find, Keyed.key, creationMutation, named]
  · have unchanged := after other
    rw [if_neg fun equal => same equal.symm, Option.or_none] at unchanged
    simp only [committedBy, if_neg same]
    exact kept_of_run (by rw [unchanged]) (by rw [unchanged]) kept

theorem commit_kept {input : FencedRunMutation} {clock : Nat} {receipt : MutationReceipt}
    {journal : Journal} {other : String}
    (committed : commit platform input clock store = (.ok receipt, next))
    (kept : (memoryImplementation platform).Keeps platform.hash store other journal) :
    (memoryImplementation platform).Keeps platform.hash next other (journal.enter
      (committedBy other (.commit input) (.ok (.committed receipt)))) := by
  obtain ⟨run, found, valid, _, _, outcome⟩ := commit_ok committed
  have valid := validateMutation_ok.mp valid
  have updated (acknowledgement : Option (String × Nat)) :
      (store.updateRun input.lease.runId (appended platform input acknowledgement)).run? other =
        if other = input.lease.runId then
          (store.run? other).map (appended platform input acknowledgement)
        else store.run? other := run?_updateRun fun _ key => key
  by_cases same : input.lease.runId = other
  · subst same
    have before : run.events = journal.events := by
      rw [← kept.history]
      exact (history_found found).symm
    simp only [committedBy, if_pos]
    rcases outcome with ⟨prior, known, _, rfl, rfl⟩ | ⟨unknown, acknowledgement, checked, rfl, rfl⟩
    · have recorded : (memoryImplementation platform).recorded next input.lease.runId
          input.operationId = some (prior.payloadDigest, prior.receipt) := by
        show next.recorded _ _ = _
        rw [recorded_found found, known]
        rfl
      rw [kept.replayed recorded]
      exact kept
    · have after := updated acknowledgement
      rw [if_pos rfl, found, Option.map_some] at after
      have expected := (checkAppend_ok.mp checked).1
      rw [before, lastSequence_of_contiguous kept.sequences] at expected
      refine kept.appended valid rfl ?_ ?_ ?_ ?_
      · show store.recorded _ _ = _
        rw [recorded_found found, unknown]
        rfl
      · rw [kept.history]
        exact expected.symm
      · show history _ _ = history _ _ ++ _
        rw [history_found after, history_found found]
        rfl
      · intro operationId
        show recorded _ _ _ = (recorded _ _ _).or _
        rw [recorded_found after, recorded_found found]
        simp only [appended, Keyed.find_append, Keyed.find_cons]
        cases Keyed.find run.mutations operationId with
        | some prior => rfl
        | none =>
          by_cases named : input.operationId = operationId
          · simp [Keyed.key, named]
          · simp [Keyed.key, named, Keyed.find]
  · have untouched : committedBy other (.commit input) (.ok (.committed receipt)) = none := by
      simp [committedBy, same]
    rw [untouched]
    rcases outcome with ⟨_, _, _, _, rfl⟩ | ⟨_, acknowledgement, _, _, rfl⟩
    · exact kept
    · have after := updated acknowledgement
      rw [if_neg fun equal => same equal.symm] at after
      exact kept_of_run (by rw [after]) (by rw [after]) kept

/-- An update of the lease or the controls of a run. -/
theorem kept_updateRun {f : MemoryRun → MemoryRun} {journal : Journal} {other : String}
    (keeps : ∀ run, run.lease.runId = runId → (f run).lease.runId = runId)
    (events : ∀ run, (f run).events = run.events)
    (mutations : ∀ run, (f run).mutations = run.mutations)
    (kept : (memoryImplementation platform).Keeps platform.hash store other journal) :
    (memoryImplementation platform).Keeps platform.hash (store.updateRun runId f) other journal := by
  have after : (store.updateRun runId f).run? other =
    if other = runId then (store.run? other).map f else store.run? other := run?_updateRun keeps
  refine kept_of_run ?_ ?_ kept <;> rw [after] <;> split <;> cases store.run? other <;>
    simp [events, mutations]

theorem perform_ok_kept {call : StoreCall} {clock : Nat} {result : StoreResult}
    {journal : Journal} {other : String}
    (performed : perform platform call clock store = (.ok result, next))
    (kept : (memoryImplementation platform).Keeps platform.hash store other journal) :
    (memoryImplementation platform).Keeps platform.hash next other
      (journal.enter (committedBy other call (.ok result))) := by
  have unchanged := perform_reads performed
  cases call <;> simp only [perform, Action.tag_ok] at performed <;>
    obtain ⟨value, performed, rfl⟩ := performed
  case createOwned => exact createOwned_kept performed kept
  case commit => exact commit_kept performed kept
  case acquireReleased input =>
    obtain ⟨run, _, _, _, rfl, rfl⟩ := acquireReleased_ok performed
    exact kept_updateRun (fun _ _ => rfl) (fun _ => rfl) (fun _ => rfl) kept
  case takeoverExpired input =>
    obtain ⟨run, _, _, _, _, _, rfl, rfl⟩ := takeoverExpired_ok performed
    exact kept_updateRun (fun _ _ => rfl) (fun _ => rfl) (fun _ => rfl) kept
  case renew token =>
    obtain ⟨run, found, _, _, _, rfl, rfl⟩ := renew_ok performed
    have key := run?_runId found
    exact kept_updateRun (fun _ _ => key) (fun _ => rfl) (fun _ => rfl) kept
  case release token =>
    obtain ⟨run, _, _, rfl⟩ := release_ok performed
    exact kept_updateRun (by intro _ key; exact key) (by intro _; rfl) (by intro _; rfl) kept
  case submitControl input =>
    obtain ⟨run, _, rfl | ⟨_, _, rfl⟩⟩ := submitControl_ok performed
    · exact kept
    · exact kept_updateRun (by intro _ key; exact key) (by intro _; rfl) (by intro _; rfl) kept
  case load | inspectLease | pendingControls => exact unchanged rfl ▸ kept

theorem perform_error_kept {call : StoreCall} {clock : Nat} {failure : Failure}
    {journal : Journal} {other : String}
    (performed : perform platform call clock store = (.error failure, next))
    (kept : (memoryImplementation platform).Keeps platform.hash store other journal) :
    (memoryImplementation platform).Keeps platform.hash next other journal := by
  rcases perform_error_state performed with rfl | ⟨token, rfl⟩
  · exact kept
  · simp only [perform, Action.tag_error] at performed
    rcases renew_error performed with rfl | ⟨run, found, _, _, rfl⟩
    · exact kept
    · have key := run?_runId found
      exact kept_updateRun (by intro _ _; exact key) (by intro _; rfl) (by intro _; rfl) kept

theorem commit_malformed {input : FencedRunMutation} {clock : Nat} {failure : Failure}
    (invalid : validateMutation input = .error failure) :
    commit platform input clock store = (.error failure, store) := by
  simp only [commit, Action.lift_bind, invalid]

/-- A well-formed retry under a live fence compares payload digests and nothing else. -/
theorem commit_retried {input : FencedRunMutation} {clock : Nat} {run : MemoryRun}
    {prior : MemoryMutation} (found : store.run? input.lease.runId = some run)
    (valid : input.Valid) (clockValid : positive clock = true)
    (live : run.lease.Live input.lease clock)
    (known : Keyed.find run.mutations input.operationId = some prior) :
    commit platform input clock store =
      (if prior.payloadDigest = mutationPayloadDigest platform.hash input
        then .ok { prior.receipt with replayed := true }
        else .error (.store .idempotencyConflict "Operation payload changed on retry"), store) := by
  have present := requireRun_ok.mpr found
  have clockOk := validateClock_ok.mpr ⟨clockValid, rfl⟩
  have fenced := fenceLease_of_live live
  simp only [commit, Action.lift_bind, Action.get_bind, valid.validated, present, clockOk, fenced, known,
    require, beq_iff_eq]
  by_cases same : prior.payloadDigest = mutationPayloadDigest platform.hash input
  · simp only [same, if_true]
    rfl
  · simp only [same, if_false]

end MemoryStore

theorem memoryImplementation_journals (platform : Platform) :
    (memoryImplementation platform).Journals platform.hash MemoryStore.LeasesValid where
  initial := by intro run member; cases member
  empty runId := ⟨rfl, fun _ => rfl, rfl, by intro _ member; cases member⟩
  preserved call clock state valid := by
    cases performed : MemoryStore.perform platform call clock state with
    | mk result next =>
      simp only [memoryImplementation, performed]
      cases result with
      | ok value => exact MemoryStore.perform_ok_leasesValid performed valid
      | error failure => exact MemoryStore.perform_error_leasesValid performed valid
  leaseValid state runId lease valid found := MemoryStore.lease?_valid valid found
  kept call clock state runId journal _ kept := by
    cases performed : MemoryStore.perform platform call clock state with
    | mk result next =>
      show (memoryImplementation platform).Keeps _ (MemoryStore.perform platform call clock state).2
        runId (journal.enter (committedBy runId call (MemoryStore.perform platform call clock state).1))
      rw [performed]
      cases result with
      | ok value => exact MemoryStore.perform_ok_kept performed kept
      | error failure =>
        rw [committedBy_error]
        exact MemoryStore.perform_error_kept performed kept
  retried input clock state journal original _ kept found live clockValid valid := by
    obtain ⟨lease, present, live⟩ := live
    obtain ⟨run, stored, rfl⟩ := Option.map_eq_some_iff.mp present
    have recorded := kept.recorded input.operationId
    rw [found] at recorded
    have recorded : state.recorded input.lease.runId input.operationId = _ := recorded
    rw [MemoryStore.recorded_found stored] at recorded
    obtain ⟨prior, known, same⟩ := Option.map_eq_some_iff.mp recorded
    simp only [Prod.mk.injEq] at same
    have retried : MemoryStore.commit platform input clock state = _ :=
      MemoryStore.commit_retried stored valid clockValid live known
    refine (Action.tag_run retried).trans ?_
    rw [same.1, same.2]
    by_cases equal : mutationPayloadDigest platform.hash input =
        mutationPayloadDigest platform.hash original.mutation
    · rw [if_pos equal.symm, if_pos equal]
      rfl
    · rw [if_neg fun other => equal other.symm, if_neg equal]
      rfl
  malformed input clock state failure invalid := by
    exact Action.tag_error.mpr (MemoryStore.commit_malformed invalid)
  throws input clock state failure thrown := by
    have performed : MemoryStore.perform platform (.commit input) clock state =
        (.error failure, _) := Prod.ext thrown rfl
    rcases MemoryStore.perform_error_state performed with same | ⟨_, renews⟩
    · exact same
    · cases renews

end Anastom
