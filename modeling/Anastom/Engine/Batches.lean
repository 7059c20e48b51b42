import Anastom.Engine.NodeInvariants

/-! Batches of payloads proposed at one state: when the reducer accepts them, and the state
they lead to. -/
namespace Anastom
open RunEventPayload
variable {state next : RunState} {payload : RunEventPayload} {payloads : List RunEventPayload}

/-- The state after an accepted payload. -/
def RunState.after (state : RunState) (payload : RunEventPayload) : RunState :=
  { payload.effect state with sequence := state.sequence + 1 }

def RunState.afterAll (state : RunState) (payloads : List RunEventPayload) : RunState :=
  payloads.foldl RunState.after state

/-- What the next event of a run may carry. -/
structure RunState.Admits (state : RunState) (payload : RunEventPayload) : Prop where
  valid : EventValidation.payload payload = true
  live : state.status.terminal = false
  accepts : payload.Accepts state

def RunState.AdmitsAll (state : RunState) : List RunEventPayload → Prop
  | [] => True
  | payload :: rest => state.Admits payload ∧ (state.after payload).AdmitsAll rest

/-- The sequences of a batch are safe integers. -/
def RunState.HasRoom (state : RunState) (payloads : List RunEventPayload) : Prop :=
  payloads = [] ∨ state.sequence + payloads.length ≤ maxSafeInteger

@[simp] theorem after_sequence : (state.after payload).sequence = state.sequence + 1 := rfl

@[simp] theorem after_runId : (state.after payload).runId = state.runId :=
  effect_runId payload state

@[simp] theorem after_status : (state.after payload).status = (payload.effect state).status := rfl

@[simp] theorem after_node? (id : String) :
    (state.after payload).node? id = (payload.effect state).node? id := rfl

@[simp] theorem afterAll_nil : state.afterAll [] = state := rfl

@[simp] theorem afterAll_cons {rest : List RunEventPayload} :
    state.afterAll (payload :: rest) = (state.after payload).afterAll rest := rfl

@[simp] theorem admitsAll_nil : state.AdmitsAll [] := trivial

@[simp] theorem admitsAll_cons {rest : List RunEventPayload} :
    state.AdmitsAll (payload :: rest) ↔ state.Admits payload ∧ (state.after payload).AdmitsAll rest :=
  Iff.rfl

theorem afterAll_append {rest : List RunEventPayload} :
    state.afterAll (payloads ++ rest) = (state.afterAll payloads).afterAll rest :=
  List.foldl_append

theorem admitsAll_append {rest : List RunEventPayload} :
    state.AdmitsAll (payloads ++ rest) ↔
      state.AdmitsAll payloads ∧ (state.afterAll payloads).AdmitsAll rest := by
  induction payloads generalizing state with
  | nil => simp
  | cons payload payloads ih => simp [ih, and_assoc]

theorem afterAll_runId : (state.afterAll payloads).runId = state.runId := by
  induction payloads generalizing state with
  | nil => rfl
  | cons payload payloads ih => rw [afterAll_cons, ih, after_runId]

theorem applyRunEvent_admits :
    applyRunEvent (some state) { payload, runId := state.runId, sequence := state.sequence + 1 } =
        .ok next ↔
      state.Admits payload ∧ state.sequence + 1 ≤ maxSafeInteger ∧ state.after payload = next := by
  rw [applyRunEvent_step]
  simp only [validRunEvent, Bool.and_eq_true, positive_iff, true_and]
  constructor
  · rintro ⟨⟨⟨_, room⟩, valid⟩, live, accepts, rfl⟩
    exact ⟨⟨valid, live, accepts⟩, room, rfl⟩
  · rintro ⟨⟨valid, live, accepts⟩, room, rfl⟩
    exact ⟨⟨⟨by omega, room⟩, valid⟩, live, accepts, rfl⟩

theorem materializeFrom_admits : (∃ events, materializeFrom (some state) state.runId payloads =
      .ok (events, some next)) ↔
    state.AdmitsAll payloads ∧ state.HasRoom payloads ∧ state.afterAll payloads = next := by
  induction payloads generalizing state with
  | nil => simp [materializeFrom, RunState.HasRoom]
  | cons payload payloads ih =>
    have sequence : nextSequence (some state) = state.sequence + 1 := rfl
    simp only [materializeFrom, bind_ok, sequence, applyRunEvent_admits, pure_ok, Prod.mk.injEq,
      Prod.exists, admitsAll_cons, afterAll_cons]
    have room : state.sequence + 1 ≤ maxSafeInteger ∧ (state.after payload).HasRoom payloads ↔
        state.HasRoom (payload :: payloads) := by
      cases payloads with
      | nil => simp [RunState.HasRoom]
      | cons head rest => simp [RunState.HasRoom]; omega
    constructor
    · rintro ⟨_, state', ⟨admits, first, rfl⟩, tail, final, continued, rfl, rfl⟩
      rw [← @after_runId state payload] at continued
      obtain ⟨all, rest, same⟩ := ih.mp ⟨tail, continued⟩
      exact ⟨⟨admits, all⟩, room.mp ⟨first, rest⟩, same⟩
    · rintro ⟨⟨admits, all⟩, whole, same⟩
      obtain ⟨first, rest⟩ := room.mpr whole
      obtain ⟨tail, continued⟩ := ih.mpr ⟨all, rest, same⟩
      rw [after_runId] at continued
      exact ⟨_, _, ⟨admits, first, rfl⟩, tail, _, continued, rfl, rfl⟩

/-- A batch is accepted exactly when each of its payloads is, in the state the earlier ones
leave, and its sequences fit. -/
theorem materializeEvents_admits : (∃ events, materializeEvents (some state) state.runId payloads =
      .ok (events, next)) ↔
    state.AdmitsAll payloads ∧ state.HasRoom payloads ∧ state.afterAll payloads = next := by
  simp only [materializeEvents_ok]
  exact materializeFrom_admits

/-- One payload for each of several nodes, which changes that node alone. -/
structure NodeFamily (change : NodeRunState → NodeRunState) (guard : NodeRunState → Prop)
    (payload : String → RunEventPayload) : Prop where
  effect : ∀ id, (payload id).nodeChange = some (id, change)
  guard : ∀ state id node, (payload id).nodeGuard state node ↔ guard node
  valid : ∀ id, EventValidation.payload (payload id) = true

namespace NodeFamily
variable {change : NodeRunState → NodeRunState} {guard : NodeRunState → Prop}
  {family : String → RunEventPayload} {ids : List String}

theorem accepts (like : NodeFamily change guard family) {id : String} :
    (family id).Accepts state ↔ ∃ node, state.node? id = some node ∧ guard node := by
  simp only [Accepts, nodeChange_nodeId (like.effect id), like.guard]

theorem effect_eq (like : NodeFamily change guard family) (id : String) :
    (family id).effect state = state.updateNode id change := by
  simp only [RunEventPayload.effect, like.effect]

theorem after_node? (like : NodeFamily change guard family) (id other : String) :
    (state.after (family id)).node? other =
      if id = other then (state.node? other).map change else state.node? other := by
  rw [Anastom.after_node?, effect_node?, like.effect]

/-- Everything but the nodes and the sequence is left as it was. -/
theorem afterAll_eq (like : NodeFamily change guard family) :
    ∃ nodes, state.afterAll (ids.map family) =
      { state with nodes, sequence := state.sequence + ids.length } := by
  induction ids generalizing state with
  | nil => exact ⟨state.nodes, rfl⟩
  | cons id ids ih =>
    obtain ⟨nodes, same⟩ := @ih (state.after (family id))
    refine ⟨nodes, ?_⟩
    rw [List.map_cons, afterAll_cons, same, RunState.after, like.effect_eq]
    simp only [RunState.updateNode, List.length_cons, RunState.mk.injEq, true_and, and_true]
    omega

theorem afterAll_node? (like : NodeFamily change guard family) (distinct : ids.Nodup)
    (other : String) : (state.afterAll (ids.map family)).node? other =
      if other ∈ ids then (state.node? other).map change else state.node? other := by
  induction ids generalizing state with
  | nil => simp
  | cons id ids ih =>
    obtain ⟨fresh, rest⟩ := List.nodup_cons.mp distinct
    rw [List.map_cons, afterAll_cons, ih rest, like.after_node?]
    by_cases same : id = other
    · subst same
      simp [fresh]
    · have different : other ≠ id := fun h => same h.symm
      simp [same, different]

/-- Distinct nodes that let their payload through do so one after the other. -/
theorem admitsAll (like : NodeFamily change guard family) (distinct : ids.Nodup)
    (live : state.status.terminal = false)
    (each : ∀ id ∈ ids, ∃ node, state.node? id = some node ∧ guard node) :
    state.AdmitsAll (ids.map family) := by
  induction ids generalizing state with
  | nil => trivial
  | cons id ids ih =>
    obtain ⟨fresh, rest⟩ := List.nodup_cons.mp distinct
    refine ⟨⟨like.valid id, live, like.accepts.mpr (each id List.mem_cons_self)⟩, ih rest ?_ ?_⟩
    · rw [after_status, like.effect_eq]
      exact live
    · intro other member
      obtain ⟨node, found, holds⟩ := each other (List.mem_cons_of_mem _ member)
      have different : id ≠ other := fun same => fresh (same ▸ member)
      exact ⟨node, by rw [like.after_node?, if_neg different, found], holds⟩

end NodeFamily

/-- Nodes that need nothing more become ready. -/
theorem nodeReady_family : NodeFamily (fun node => { node with status := .ready, pauseReason := none })
    (fun node => node.status = .pending) (RunEventPayload.nodeReady · .dependenciesSatisfied) where
  effect _ := rfl
  guard _ _ _ := by simp [nodeGuard, ReadyReason.allowed]
  valid _ := rfl

theorem nodeBlocked_family (reason : String) :
    NodeFamily (fun node => { node with status := .blocked, blockedReason := some reason })
      (fun node => node.status ∈ [NodeStatus.pending, .ready, .running] ∧
        (node.status = .running → ∃ attempt, node.CurrentIs node.attempts.length .blocked attempt))
      (RunEventPayload.nodeBlocked · reason) where
  effect _ := rfl
  guard _ _ _ := Iff.rfl
  valid _ := rfl

theorem nodeCancelled_family (reason : String) :
    NodeFamily (fun node => { node with status := .cancelled, blockedReason := some reason })
      (fun node => node.status ∈ [NodeStatus.pending, .ready, .running, .blocked, .paused] ∧
        (node.status = .running → node.currentStatusIn [.cancelled, .orphaned] = true))
      (RunEventPayload.nodeCancelled · reason) where
  effect _ := rfl
  guard _ _ _ := Iff.rfl
  valid _ := rfl

end Anastom
