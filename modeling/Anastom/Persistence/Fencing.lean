import Anastom.Persistence.SqliteOperations
import Anastom.Transition.Fencing

/-! Both stores keep the lease of a run as a fenced register: what one call does to
it, and from that what holds over any sequence of calls with any clock readings. -/
namespace Anastom
open Fencing

def actOn (runId : String) (act : RunLeaseToken → Act RunLeaseToken) (token : RunLeaseToken) :
    Act RunLeaseToken :=
  if token.runId = runId then act token else .other

/-- The act of a call on the lease of one run; a call that throws has none. -/
def leaseAct (runId : String) (call : StoreCall) (result : Except Failure StoreResult) :
    Act RunLeaseToken :=
  match result, call with
  | .error _, _ => .other
  | .ok _, .commit input => actOn runId .use input.lease
  | .ok _, .renew token => actOn runId .use token
  | .ok _, .release token => actOn runId .release token
  | .ok (.created receipt), _ => actOn runId .grant receipt.lease
  | .ok (.granted token), _ => actOn runId .grant token
  | .ok _, _ => .other

def RunLease.held (lease : RunLease) : Held RunLeaseToken := ⟨lease.token, lease.released⟩

/-- The fence check admits exactly the held, unreleased token before its expiry. -/
def RunLease.Live (lease : RunLease) (token : RunLeaseToken) (clock : Nat) : Prop :=
  lease.token = token ∧ lease.released = false ∧ clock < lease.expiresAtMs

theorem fenceLease_live {lease : RunLease} {token : RunLeaseToken} {clock : Nat} {u : Unit}
    (fenced : fenceLease lease token clock = .ok u) (sameRun : lease.runId = token.runId) :
    lease.Live token clock := by
  obtain ⟨ownerId, generation, unreleased, unexpired⟩ := fenceLease_ok.mp fenced
  exact ⟨by simp [RunLease.token, sameRun, ownerId, generation], unreleased, unexpired⟩

theorem fenceLease_of_live {lease : RunLease} {token : RunLeaseToken} {clock : Nat}
    (live : lease.Live token clock) : fenceLease lease token clock = .ok () := by
  obtain ⟨rfl, unreleased, unexpired⟩ := live
  exact fenceLease_ok.mpr ⟨rfl, rfl, unreleased, unexpired⟩

/-- The token that a call presents to the fence and needs alive. -/
def StoreCall.fenced? : StoreCall → Option RunLeaseToken
  | .commit input => some input.lease
  | .renew token => some token
  | _ => none

section Views
variable {before after : String → Option RunLease} {token : RunLeaseToken} {lease : RunLease}

/-- A call that grants the lease of one run, absent or of an earlier generation. -/
theorem granted_step (granted : lease.held = ⟨token, false⟩)
    (later : ∀ old ∈ before token.runId, old.generation < token.generation)
    (changed : ∀ other, after other = if other = token.runId then some lease else before other)
    (other : String) :
    Step RunLeaseToken.generation ((before other).map RunLease.held)
      (actOn other .grant token)
      ((after other).map RunLease.held) := by
  rw [changed, actOn]
  by_cases same : token.runId = other
  · subst same
    rw [if_pos rfl, if_pos rfl, Option.map_some, granted]
    refine .grant ?_
    intro old held
    obtain ⟨previous, present, rfl⟩ := Option.map_eq_some_iff.mp held
    exact later previous present
  · rw [if_neg same, if_neg fun equal => same equal.symm]
    exact .other

/-- A call that presents the held token and leaves every token and flag. -/
theorem used_step (found : before token.runId = some lease) (live : lease.held = ⟨token, false⟩)
    (kept : ∀ other, (after other).map RunLease.held = (before other).map RunLease.held)
    (other : String) :
    Step RunLeaseToken.generation ((before other).map RunLease.held)
      (actOn other .use token)
      ((after other).map RunLease.held) := by
  rw [kept, actOn]
  by_cases same : token.runId = other
  · subst same
    rw [if_pos rfl, found, Option.map_some, live]
    exact .use
  · rw [if_neg same]
    exact .other

theorem released_step (found : before token.runId = some lease) (held : lease.token = token)
    (changed : ∀ other, (after other).map RunLease.held =
      if other = token.runId then some ⟨token, true⟩ else (before other).map RunLease.held)
    (other : String) :
    Step RunLeaseToken.generation ((before other).map RunLease.held)
      (actOn other .release token)
      ((after other).map RunLease.held) := by
  rw [changed, actOn]
  by_cases same : token.runId = other
  · subst same
    have current : lease.held = ⟨token, lease.released⟩ := by rw [RunLease.held, held]
    rw [if_pos rfl, if_pos rfl, found, Option.map_some, current]
    exact .release
  · rw [if_neg same, if_neg fun equal => same equal.symm]
    exact .other

end Views

namespace MemoryStore
variable {platform : Platform} {store next : MemoryStore} {runId : String}

theorem lease?_found {run : MemoryRun} (found : store.run? runId = some run) :
    store.lease? runId = some run.lease := by
  simp [lease?, found]

theorem lease?_updateRun {run : MemoryRun} {f : MemoryRun → MemoryRun}
    (found : store.run? runId = some run)
    (keeps : ∀ run, run.lease.runId = runId → (f run).lease.runId = runId) (other : String) :
    (store.updateRun runId f).lease? other =
      if other = runId then some (f run).lease else store.lease? other := by
  unfold lease?
  rw [run?_updateRun keeps]
  by_cases same : other = runId
  · subst same; simp [found]
  · simp [same]

/-- An update that keeps the lease's token and released flag. -/
theorem held_updateRun {run : MemoryRun} {f : MemoryRun → MemoryRun}
    (found : store.run? runId = some run)
    (keeps : ∀ run, run.lease.runId = runId → (f run).lease.runId = runId)
    (held : (f run).lease.held = run.lease.held) (other : String) :
    ((store.updateRun runId f).lease? other).map RunLease.held =
      (store.lease? other).map RunLease.held := by
  rw [lease?_updateRun found keeps]
  by_cases same : other = runId
  · subst same; simp [lease?, found, held]
  · simp [same]

theorem lease?_created (input : CreateOwnedRun) (clock : Nat)
    (absent : store.run? input.runId = none) (other : String) :
    lease? { runs := store.runs ++ [createdRun platform input clock] } other =
      if other = input.runId then some (createdRun platform input clock).lease
      else store.lease? other := by
  unfold lease? run? at *
  rw [Keyed.find_append, Keyed.find_cons]
  by_cases same : other = input.runId
  · subst same
    have key : Keyed.key (createdRun platform input clock) = input.runId := rfl
    simp [absent, key]
  · have key : Keyed.key (createdRun platform input clock) ≠ other := fun equal => same equal.symm
    simp [key, same, Keyed.find]

theorem perform_reads {call : StoreCall} {clock : Nat} {result : Except Failure StoreResult}
    (performed : perform platform call clock store = (result, next)) (reads : call.reads = true) :
    next = store := by
  have state : (perform platform call clock store).2 = next := by rw [performed]
  subst state
  cases call <;> cases reads
  case load runId mode => exact load_state runId mode store
  case inspectLease runId => exact inspectLease_state runId store
  case pendingControls runId limit => exact pendingControls_state runId limit store

/-- Only `renew` changes the store when it throws. -/
theorem perform_error_state {call : StoreCall} {clock : Nat} {failure : Failure}
    (performed : perform platform call clock store = (.error failure, next)) :
    next = store ∨ ∃ token, call = .renew token := by
  have unchanged := perform_reads performed
  cases call <;> simp only [perform, Action.tag_error] at performed
  case createOwned => exact .inl (createOwned_atomic _ _ _ _ _ performed)
  case acquireReleased => exact .inl (acquireReleased_atomic _ _ _ _ _ performed)
  case takeoverExpired => exact .inl (takeoverExpired_atomic _ _ _ _ _ performed)
  case renew token => exact .inr ⟨token, rfl⟩
  case release => exact .inl (release_atomic _ _ _ _ performed)
  case commit => exact .inl (commit_atomic _ _ _ _ _ performed)
  case submitControl => exact .inl (submitControl_atomic _ _ _ _ _ performed)
  case load | inspectLease | pendingControls => exact .inl (unchanged rfl)

theorem renew_error {token : RunLeaseToken} {clock : Nat} {failure : Failure}
    (performed : renew token clock store = (.error failure, next)) :
    next = store ∨ ∃ run, store.run? token.runId = some run ∧
      fenceLease run.lease token clock = .ok () ∧ positive clock = true ∧
      next = store.updateRun token.runId fun current => { current with
        lease := { run.lease with renewedAtMs := max clock run.lease.renewedAtMs } } := by
  rcases renew_cases token clock store with
    ⟨_, rejected⟩ | ⟨run, found, fenced, clockValid, ⟨_, completed⟩ | ⟨_, thrown⟩⟩
  · rw [rejected] at performed; cases performed; exact .inl rfl
  · rw [completed] at performed; cases performed
  · rw [thrown] at performed
    cases performed
    exact .inr ⟨run, found, fenced, clockValid, rfl⟩

theorem perform_error_held {call : StoreCall} {clock : Nat} {failure : Failure}
    (performed : perform platform call clock store = (.error failure, next)) (other : String) :
    (next.lease? other).map RunLease.held = (store.lease? other).map RunLease.held := by
  rcases perform_error_state performed with rfl | ⟨token, rfl⟩
  · rfl
  · simp only [perform, Action.tag_error] at performed
    rcases renew_error performed with rfl | ⟨run, found, _, _, rfl⟩
    · rfl
    · have key := run?_runId found
      refine held_updateRun found ?_ rfl other
      intro _ _
      exact key

theorem perform_ok_step {call : StoreCall} {clock : Nat} {result : StoreResult}
    (performed : perform platform call clock store = (.ok result, next)) (other : String) :
    Step RunLeaseToken.generation ((store.lease? other).map RunLease.held)
      (leaseAct other call (.ok result)) ((next.lease? other).map RunLease.held) := by
  have unchanged := perform_reads performed
  cases call <;> simp only [perform, Action.tag_ok] at performed <;>
    obtain ⟨value, performed, rfl⟩ := performed
  case createOwned input =>
    obtain ⟨_, absent, _, _, rfl, rfl⟩ := createOwned_ok.mp performed
    refine granted_step rfl ?_ (lease?_created input clock absent) other
    intro old present
    simp [lease?, creationMutation, absent] at present
  case acquireReleased input =>
    obtain ⟨run, found, _, _, rfl, rfl⟩ := acquireReleased_ok performed
    refine granted_step rfl ?_ (lease?_updateRun found fun _ _ => rfl) other
    intro old present
    rw [lease?_found found] at present
    cases present
    exact Nat.lt_succ_self _
  case takeoverExpired input =>
    obtain ⟨run, found, _, _, _, _, rfl, rfl⟩ := takeoverExpired_ok performed
    refine granted_step rfl ?_ (lease?_updateRun found fun _ _ => rfl) other
    intro old present
    rw [lease?_found found] at present
    cases present
    exact Nat.lt_succ_self _
  case renew token =>
    obtain ⟨run, found, fenced, _, _, rfl, rfl⟩ := renew_ok performed
    have key := run?_runId found
    obtain ⟨same, unreleased, _⟩ := fenceLease_live fenced key
    refine used_step (lease?_found found) (by simp [RunLease.held, same, unreleased]) ?_ other
    exact held_updateRun found (fun _ _ => key) rfl
  case release token =>
    obtain ⟨run, found, held, rfl⟩ := release_ok performed
    refine released_step (lease?_found found) held ?_ other
    intro other
    rw [lease?_updateRun found (by intro _ key; exact key)]
    by_cases same : other = token.runId
    · subst same; simp [RunLease.held, ← held, RunLease.token]
    · simp [same]
  case commit input =>
    obtain ⟨run, found, _, _, fenced, outcome⟩ := commit_ok performed
    obtain ⟨same, unreleased, _⟩ := fenceLease_live fenced (run?_runId found)
    refine used_step (lease?_found found) (by simp [RunLease.held, same, unreleased]) ?_ other
    rcases outcome with ⟨_, _, _, _, rfl⟩ | ⟨_, _, _, _, rfl⟩
    · intro other; rfl
    · exact held_updateRun found (fun _ key => key) rfl
  case submitControl input =>
    obtain ⟨run, found, rfl | ⟨_, _, rfl⟩⟩ := submitControl_ok performed
    · exact .other
    · rw [held_updateRun found (by intro _ key; exact key) rfl other]
      exact .other
  case load | inspectLease | pendingControls =>
    rw [unchanged rfl]
    exact .other

/-- What the call needs of the lease record that it finds. -/
theorem perform_ok_live {call : StoreCall} {clock : Nat} {result : StoreResult}
    {token : RunLeaseToken} (performed : perform platform call clock store = (.ok result, next))
    (fenced : call.fenced? = some token) :
    ∃ lease, store.lease? token.runId = some lease ∧ lease.Live token clock := by
  cases call <;> cases fenced <;> simp only [perform, Action.tag_ok] at performed <;>
    obtain ⟨value, performed, rfl⟩ := performed
  case renew =>
    obtain ⟨run, found, fenced, _⟩ := renew_ok performed
    exact ⟨run.lease, lease?_found found, fenceLease_live fenced (run?_runId found)⟩
  case commit =>
    obtain ⟨run, found, _, _, fenced, _⟩ := commit_ok performed
    exact ⟨run.lease, lease?_found found, fenceLease_live fenced (run?_runId found)⟩

theorem perform_ok_takeover {input : TakeoverExpiredRun} {clock : Nat} {result : StoreResult}
    (performed : perform platform (.takeoverExpired input) clock store = (.ok result, next)) :
    store.lease? input.runId = some input.observedLease ∧
      input.observedLease.released = false ∧ input.observedLease.expiresAtMs ≤ clock := by
  simp only [perform, Action.tag_ok] at performed
  obtain ⟨value, performed, _⟩ := performed
  obtain ⟨run, found, same, unreleased, expired, _⟩ := takeoverExpired_ok performed
  rw [lease?_found found, ← same]
  exact ⟨rfl, unreleased, expired⟩

end MemoryStore

namespace SqliteStore
variable {platform : Platform} {db next : SqliteStore} {runId : String}

theorem lease?_withLeases {lease : RunLease} {f : LeaseRow → LeaseRow}
    {g : RunLease → RunLease} (found : db.lease? runId = some lease)
    (keeps : ∀ row : LeaseRow, row.runId = runId → (f row).runId = runId)
    (rewrites : ∀ row : LeaseRow, row.runId = runId → (f row).toRunLease = g row.toRunLease)
    (other : String) : (db.withLeases runId f).lease? other =
      if other = runId then some (g lease) else db.lease? other := by
  unfold lease? withLeases at *
  rw [Keyed.find_modify keeps]
  by_cases same : other = runId
  · subst same
    obtain ⟨row, present, rfl⟩ := Option.map_eq_some_iff.mp found
    simp [present, rewrites row (Keyed.find_key present)]
  · simp [same]

theorem lease?_runId {lease : RunLease} (found : db.lease? runId = some lease) :
    lease.runId = runId := by
  obtain ⟨row, present, rfl⟩ := Option.map_eq_some_iff.mp found
  exact Keyed.find_key present

theorem lease?_granted {lease : RunLease} {input : AcquireReleasedRun} {generation now : Nat}
    (found : db.lease? input.runId = some lease) (other : String) :
    (db.withLeases input.runId (grantedRow platform input generation now)).lease? other =
      if other = input.runId then
        some (grantedLease input generation now (now + runLeaseDurationMs))
      else db.lease? other := by
  refine lease?_withLeases (g := fun _ =>
    grantedLease input generation now (now + runLeaseDurationMs)) found (by intro _ key; exact key) ?_ other
  intro row key
  simp [grantedRow, grantedLease, key]

theorem lease?_created (input : CreateOwnedRun) (clock : Nat)
    (absent : Keyed.find db.runLeases input.runId = none) (other : String) :
    (db.created platform input clock).lease? other =
      if other = input.runId then some (createdLease platform input clock).toRunLease
      else db.lease? other := by
  have leases : (db.created platform input clock).runLeases =
      db.runLeases ++ [createdLease platform input clock] := rfl
  unfold lease?
  rw [leases, Keyed.find_append, Keyed.find_cons]
  by_cases same : other = input.runId
  · subst same
    have key : Keyed.key (createdLease platform input clock) = input.runId := rfl
    simp [absent, key]
  · have key : Keyed.key (createdLease platform input clock) ≠ other :=
      fun equal => same equal.symm
    simp [key, same, Keyed.find]

theorem lease?_appended (input : FencedRunMutation) (digests : List String)
    (acknowledgement : Option Nat) (clock : Nat) (other : String) :
    (db.appended platform input digests acknowledgement clock).lease? other =
      db.lease? other := by
  unfold appended withAcknowledgement withSnapshot
  split <;> split <;> rfl

theorem perform_reads {call : StoreCall} {clock : Nat} {result : Except Failure StoreResult}
    (performed : perform platform call clock db = (result, next)) (reads : call.reads = true) :
    next = db := by
  have state : (perform platform call clock db).2 = next := by rw [performed]
  subst state
  cases call <;> cases reads
  case load runId mode => exact load_state runId mode db
  case inspectLease runId => exact inspectLease_state runId db
  case pendingControls runId limit => exact pendingControls_state runId limit db

theorem perform_error_state {call : StoreCall} {clock : Nat} {failure : Failure}
    (performed : perform platform call clock db = (.error failure, next)) : next = db := by
  have unchanged := perform_reads performed
  cases call <;> simp only [perform, Action.tag_error] at performed
  case load | inspectLease | pendingControls => exact unchanged rfl
  case takeoverExpired =>
    exact Action.atomic_lift_bind (fun _ => Action.atomic_lift_bind fun _ =>
      transaction_atomic _) _ _ _ performed
  all_goals exact transaction_atomic _ _ _ _ performed

theorem perform_ok_step {call : StoreCall} {clock : Nat} {result : StoreResult}
    (performed : perform platform call clock db = (.ok result, next)) (other : String) :
    Step RunLeaseToken.generation ((db.lease? other).map RunLease.held)
      (leaseAct other call (.ok result)) ((next.lease? other).map RunLease.held) := by
  have unchanged := perform_reads performed
  cases call <;> simp only [perform, Action.tag_ok] at performed <;>
    obtain ⟨value, performed, rfl⟩ := performed
  case createOwned input =>
    obtain ⟨_, _, absent, _, _, _, rfl, rfl⟩ := createOwned_ok performed
    refine granted_step rfl ?_ (lease?_created input clock absent) other
    intro old present
    simp [lease?, creationMutation, absent] at present
  case acquireReleased input =>
    obtain ⟨lease, found, _, _, rfl, rfl⟩ := acquireReleased_ok performed
    refine granted_step rfl ?_ (lease?_granted found) other
    intro old present
    rw [found] at present
    cases present
    exact Nat.lt_succ_self _
  case takeoverExpired input =>
    obtain ⟨lease, found, _, _, _, _, rfl, rfl⟩ := takeoverExpired_ok performed
    refine granted_step rfl ?_ (lease?_granted found) other
    intro old present
    rw [found] at present
    cases present
    exact Nat.lt_succ_self _
  case renew token =>
    obtain ⟨lease, found, fenced, _, _, _, rfl, rfl⟩ := renew_ok performed
    obtain ⟨same, unreleased, _⟩ := fenceLease_live fenced (lease?_runId found)
    refine used_step found (by simp [RunLease.held, same, unreleased]) ?_ other
    intro other
    rw [lease?_withLeases (g := fun current => { current with
      renewedAtMs := (renewedLease lease clock).renewedAtMs
      expiresAtMs := (renewedLease lease clock).expiresAtMs }) found
      (by intro _ key; exact key) (by intros; rfl) other]
    by_cases same : other = token.runId
    · subst same; simp [found, RunLease.held, RunLease.token]
    · simp [same]
  case release token =>
    obtain ⟨lease, found, held, outcome⟩ := release_ok performed
    refine released_step found held ?_ other
    intro other
    by_cases same : other = token.runId
    · subst same
      rcases outcome with ⟨released, rfl⟩ | ⟨_, rfl⟩
      · simp [found, RunLease.held, held, released]
      · rw [lease?_withLeases (g := fun current => { current with released := true }) found
          (by intro _ key; exact key) (by intros; rfl)]
        simp [RunLease.held, ← held, RunLease.token]
    · rw [if_neg same]
      rcases outcome with ⟨_, rfl⟩ | ⟨_, rfl⟩
      · rfl
      · rw [lease?_withLeases (g := fun current => { current with released := true }) found
          (by intro _ key; exact key) (by intros; rfl), if_neg same]
  case commit input =>
    obtain ⟨lease, found, same, _, _, fenced, outcome⟩ := commit_ok performed
    obtain ⟨_, unreleased, _⟩ := fenceLease_live fenced (lease?_runId found)
    refine used_step found (by simp [RunLease.held, same, unreleased]) ?_ other
    intro other
    rcases outcome with ⟨_, _, _, _, rfl⟩ | ⟨_, _, _, _, _, rfl⟩
    · rfl
    · rw [lease?_appended]
  case submitControl input =>
    obtain ⟨_, rfl | ⟨_, _, rfl⟩⟩ := submitControl_ok performed <;> exact .other
  case load | inspectLease | pendingControls =>
    rw [unchanged rfl]
    exact .other

theorem perform_ok_live {call : StoreCall} {clock : Nat} {result : StoreResult}
    {token : RunLeaseToken} (performed : perform platform call clock db = (.ok result, next))
    (fenced : call.fenced? = some token) :
    ∃ lease, db.lease? token.runId = some lease ∧ lease.Live token clock := by
  cases call <;> cases fenced <;> simp only [perform, Action.tag_ok] at performed <;>
    obtain ⟨value, performed, rfl⟩ := performed
  case renew =>
    obtain ⟨lease, found, fenced, _⟩ := renew_ok performed
    exact ⟨lease, found, fenceLease_live fenced (lease?_runId found)⟩
  case commit =>
    obtain ⟨lease, found, _, _, _, fenced, _⟩ := commit_ok performed
    exact ⟨lease, found, fenceLease_live fenced (lease?_runId found)⟩

theorem perform_ok_takeover {input : TakeoverExpiredRun} {clock : Nat} {result : StoreResult}
    (performed : perform platform (.takeoverExpired input) clock db = (.ok result, next)) :
    db.lease? input.runId = some input.observedLease ∧
      input.observedLease.released = false ∧ input.observedLease.expiresAtMs ≤ clock := by
  simp only [perform, Action.tag_ok] at performed
  obtain ⟨value, performed, _⟩ := performed
  obtain ⟨lease, found, rfl, unreleased, expired, _⟩ := takeoverExpired_ok performed
  exact ⟨found, unreleased, expired⟩

end SqliteStore

/-- What a store has to do with its lease records in one call. -/
structure StoreImplementation.Fences (store : StoreImplementation) : Prop where
  initial : ∀ runId, store.lease store.initial runId = none
  step : ∀ call clock state runId, Step RunLeaseToken.generation
    ((store.lease state runId).map RunLease.held)
    (leaseAct runId call (store.perform call clock state).1)
    ((store.lease (store.perform call clock state).2 runId).map RunLease.held)
  live : ∀ call clock state result token, (store.perform call clock state).1 = .ok result →
    call.fenced? = some token →
    ∃ lease, store.lease state token.runId = some lease ∧ lease.Live token clock
  takeover : ∀ input clock state result,
    (store.perform (.takeoverExpired input) clock state).1 = .ok result →
    store.lease state input.runId = some input.observedLease ∧
      input.observedLease.released = false ∧ input.observedLease.expiresAtMs ≤ clock

theorem memoryImplementation_fences (platform : Platform) :
    (memoryImplementation platform).Fences where
  initial _ := rfl
  step call clock state runId := by
    cases performed : MemoryStore.perform platform call clock state with
    | mk result next =>
      simp only [memoryImplementation, performed]
      cases result with
      | ok value => exact MemoryStore.perform_ok_step performed runId
      | error failure =>
        rw [MemoryStore.perform_error_held performed runId]
        exact .other
  live _ _ _ _ _ performed fenced :=
    MemoryStore.perform_ok_live (Prod.ext performed rfl) fenced
  takeover input clock state result performed := by
    have complete : MemoryStore.perform platform (.takeoverExpired input) clock state = (.ok result, _) :=
      Prod.ext performed rfl
    exact MemoryStore.perform_ok_takeover complete

theorem sqliteImplementation_fences (platform : Platform) :
    (sqliteImplementation platform).Fences where
  initial _ := rfl
  step call clock state runId := by
    cases performed : SqliteStore.perform platform call clock state with
    | mk result next =>
      simp only [sqliteImplementation, performed]
      cases result with
      | ok value => exact SqliteStore.perform_ok_step performed runId
      | error failure =>
        rw [SqliteStore.perform_error_state performed]
        exact .other
  live _ _ _ _ _ performed fenced :=
    SqliteStore.perform_ok_live (Prod.ext performed rfl) fenced
  takeover input clock state result performed := by
    have complete : SqliteStore.perform platform (.takeoverExpired input) clock state = (.ok result, _) :=
      Prod.ext performed rfl
    exact SqliteStore.perform_ok_takeover complete

theorem durableStore_fences (platform : Platform) (kind : StoreKind) :
    (durableStore platform kind).Fences := by
  cases kind with
  | memory => exact memoryImplementation_fences platform
  | sqlite => exact sqliteImplementation_fences platform

def Observed.act {σ : Type} (runId : String) (observed : Observed σ) : Act RunLeaseToken :=
  leaseAct runId observed.call observed.result

/-- The tokens granted for a run, in the order of their grants. -/
def grantedTokens {σ : Type} (runId : String) (trace : List (Observed σ)) : List RunLeaseToken :=
  grants (trace.map (Observed.act runId))

/-- The token that a call presents, alive or not. -/
def StoreCall.presented? : StoreCall → Option RunLeaseToken
  | .release token => some token
  | call => call.fenced?

def Observed.Succeeds {σ : Type} (observed : Observed σ) : Prop :=
  ∃ result, observed.result = .ok result

/-- The fencing guarantees over a trace of calls on any runs. -/
structure FencedTrace (store : StoreImplementation) (trace : List (Observed store.State)) :
    Prop where
  generations : ∀ runId, ((grantedTokens runId trace).map RunLeaseToken.generation).Pairwise (· < ·)
  fenced : ∀ earlier observed later token, trace = earlier ++ observed :: later →
    observed.call.fenced? = some token → observed.Succeeds →
    (grantedTokens token.runId earlier).getLast? = some token ∧
      (∀ previous ∈ earlier, previous.call = .release token → ¬ previous.Succeeds) ∧
      ∃ lease, store.lease observed.before token.runId = some lease ∧
        lease.Live token observed.clock
  superseded : ∀ earlier observed later older newer, trace = earlier ++ observed :: later →
    observed.call.presented? = some older → newer ∈ grantedTokens older.runId earlier →
    older.generation < newer.generation → ¬ observed.Succeeds
  takeover : ∀ observed ∈ trace, ∀ input, observed.call = .takeoverExpired input →
    observed.Succeeds →
    store.lease observed.before input.runId = some input.observedLease ∧
      input.observedLease.released = false ∧ input.observedLease.expiresAtMs ≤ observed.clock

namespace StoreImplementation
variable {store : StoreImplementation}

theorem Fences.run (fences : store.Fences) (runId : String) (state : store.State)
    (calls : List (StoreCall × Nat)) : Run RunLeaseToken.generation
      ((store.lease state runId).map RunLease.held)
      ((store.trace state calls).map (Observed.act runId))
      ((store.lease (store.finalState state calls) runId).map RunLease.held) := by
  induction calls generalizing state with
  | nil => exact .nil
  | cons entry rest ih => exact .cons (fences.step entry.1 entry.2 state runId) (ih _)

theorem trace_mem {state : store.State} {calls : List (StoreCall × Nat)}
    {observed : Observed store.State} (member : observed ∈ store.trace state calls) :
    store.perform observed.call observed.clock observed.before =
      (observed.result, observed.after) := by
  induction calls generalizing state with
  | nil => cases member
  | cons entry rest ih =>
    rcases List.mem_cons.mp member with rfl | member
    · rfl
    · exact ih member

end StoreImplementation

theorem fenced_act {σ : Type} {observed : Observed σ} {token : RunLeaseToken}
    (fenced : observed.call.fenced? = some token) (succeeds : observed.Succeeds) :
    observed.act token.runId = .use token := by
  obtain ⟨call, clock, before, result, after⟩ := observed
  obtain ⟨value, rfl⟩ := succeeds
  cases call <;> cases fenced <;> simp [Observed.act, leaseAct, actOn]

theorem released_act {σ : Type} {observed : Observed σ} {token : RunLeaseToken}
    (call : observed.call = .release token) (succeeds : observed.Succeeds) :
    observed.act token.runId = .release token := by
  obtain ⟨_, clock, before, result, after⟩ := observed
  obtain ⟨value, rfl⟩ := succeeds
  subst call
  simp [Observed.act, leaseAct, actOn]

theorem presented_act {σ : Type} {observed : Observed σ} {token : RunLeaseToken}
    (presented : observed.call.presented? = some token) (succeeds : observed.Succeeds) :
    (observed.act token.runId).presents token := by
  cases call : observed.call with
  | release released =>
    rw [call] at presented
    cases presented
    exact .inr (released_act call succeeds)
  | renew | commit | createOwned | load | inspectLease | acquireReleased | takeoverExpired |
      submitControl | pendingControls =>
    rw [call] at presented
    exact .inl (fenced_act (by rw [call]; exact presented) succeeds)

/-- Whatever order the clients of either store call it in, and whatever the clock
reads, only the newest unreleased and unexpired token is accepted. -/
theorem durableStore_fenced (platform : Platform) (kind : StoreKind)
    (calls : List (StoreCall × Nat)) :
    FencedTrace (durableStore platform kind)
      ((durableStore platform kind).trace (durableStore platform kind).initial calls) := by
  have fences := durableStore_fences platform kind
  have run (runId : String) := fences.run runId (durableStore platform kind).initial calls
  simp only [fences.initial, Option.map_none] at run
  constructor
  case generations =>
    intro runId
    rw [List.pairwise_map]
    exact (run runId).grants_increase
  case fenced =>
    intro earlier observed later token split fenced succeeds
    have uses := fenced_act fenced succeeds
    have sequence := run token.runId
    rw [split, List.map_append, List.map_cons, uses] at sequence
    refine ⟨sequence.presented_current (.inl rfl), ?_, ?_⟩
    · intro previous member call released
      have act := released_act call released
      exact sequence.used_unreleased (act ▸ List.mem_map_of_mem member)
    · obtain ⟨result, succeeded⟩ := succeeds
      have member : observed ∈ (durableStore platform kind).trace _ calls :=
        split ▸ List.mem_append_right earlier List.mem_cons_self
      have performed := StoreImplementation.trace_mem member
      exact fences.live observed.call observed.clock observed.before result token
        (by rw [performed, succeeded]) fenced
  case superseded =>
    intro earlier observed later older newer split presented granted older_newer succeeds
    have sequence := run older.runId
    rw [split, List.map_append, List.map_cons] at sequence
    exact sequence.superseded granted older_newer (presented_act presented succeeds)
  case takeover =>
    intro observed member input call succeeds
    obtain ⟨result, succeeded⟩ := succeeds
    have performed := StoreImplementation.trace_mem member
    rw [call] at performed
    exact fences.takeover input observed.clock observed.before result
      (by rw [performed, succeeded])

end Anastom
