import Anastom.Persistence.StoreContract
import Anastom.Transition.Inbox

/-! The control inbox of a run: how one call acts on it, and what a store owes its
submitters and owners for each call. -/
namespace Anastom
open Inbox

instance : Keyed ControlRequest String := ⟨fun request => request.operationId⟩

/-- The act of a call on the inbox of one run. A receipt marked `replayed` is the
answer to a retry, which acts on nothing. -/
def inboxAct (runId : String) (call : StoreCall) (result : Except Failure StoreResult) :
    Act ControlRequest String :=
  match call, result with
  | .submitControl input, .ok (.submitted receipt) =>
    if input.runId = runId ∧ receipt.replayed = false then .post receipt.toControlRequest
    else .other
  | .commit input, .ok (.committed receipt) =>
    if input.lease.runId = runId ∧ receipt.replayed = false then
      (input.handlesControlOperationId.map Act.acknowledge).getD .other
    else .other
  | _, _ => .other

/-- The acts of a trace on the inbox of one run. -/
def inboxActs {σ : Type} (runId : String) (trace : List (Observed σ)) :
    List (Act ControlRequest String) :=
  trace.map fun observed => inboxAct runId observed.call observed.result

/-- The first `limit` requests of some order by age. -/
def OldestFirst (limit : Nat) (pending listed : List ControlRequest) : Prop :=
  ∃ ordered : List ControlRequest, ordered.Perm pending ∧
    ordered.Pairwise (fun older newer => older.recordedAtMs ≤ newer.recordedAtMs) ∧
    listed = ordered.take limit

/-- Exactly one event of the batch observes the request. -/
def ObservesOnce (request : ControlRequest) (events : List RunEvent) : Prop :=
  ∃ event, events.filter (observesControl request) = [event]

/-- What a store has to do with the inboxes of its runs in one call. `Inv` is the
store's own invariant on reachable states, `inbox` what it keeps for a run. -/
structure StoreImplementation.Inboxes (store : StoreImplementation) (Inv : store.State → Prop)
    (inbox : store.State → String → List (Posted ControlRequest)) : Prop where
  initial : Inv store.initial
  empty : ∀ runId, inbox store.initial runId = []
  preserved : ∀ call clock state, Inv state → Inv (store.perform call clock state).2
  step : ∀ call clock state runId, Inv state →
    Step (inbox state runId) (inboxAct runId call (store.perform call clock state).1)
      (inbox (store.perform call clock state).2 runId)
  stamped : ∀ input clock state receipt,
    (store.perform (.submitControl input) clock state).1 = .ok (.submitted receipt) →
    receipt.replayed = false →
    receipt.toControlRequest = { input with recordedAtMs := clock }
  resubmitted : ∀ input clock state posted, Inv state →
    Keyed.find (inbox state input.runId) input.operationId = some posted →
    store.perform (.submitControl input) clock state =
      (if posted.request.action = input.action
        then .ok (.submitted { posted.request with replayed := true })
        else .error (.store .controlConflict "Control action changed on retry"), state)
  observed : ∀ input clock state receipt operationId, Inv state →
    (store.perform (.commit input) clock state).1 = .ok (.committed receipt) →
    receipt.replayed = false → input.handlesControlOperationId = some operationId →
    ∃ request, Keyed.find (inbox state input.lease.runId) operationId = some ⟨request, false⟩ ∧
      ObservesOnce request input.events
  replayed : ∀ input clock state receipt,
    (store.perform (.commit input) clock state).1 = .ok (.committed receipt) →
    receipt.replayed = true → (store.perform (.commit input) clock state).2 = state
  listed : ∀ runId limit clock state controls, Inv state →
    (store.perform (.pendingControls runId limit) clock state).1 = .ok (.pending controls) →
    OldestFirst limit
      (((inbox state runId).filter fun posted => !posted.acknowledged).map Posted.request)
      controls
  answered : ∀ runId limit clock state, Inv state → inbox state runId ≠ [] →
    1 ≤ limit → limit ≤ 100 →
    ∃ controls, (store.perform (.pendingControls runId limit) clock state).1 =
      .ok (.pending controls)
  throws : ∀ input clock state failure,
    (store.perform (.commit input) clock state).1 = .error failure →
    (store.perform (.commit input) clock state).2 = state

namespace StoreImplementation.Inboxes
variable {store : StoreImplementation} {Inv : store.State → Prop}
  {inbox : store.State → String → List (Posted ControlRequest)}

/-- The invariant and the inbox of a run, carried over a list of calls. -/
theorem run (inboxes : store.Inboxes Inv inbox) (runId : String) (state : store.State)
    (acts : List (Act ControlRequest String)) (calls : List (StoreCall × Nat)) (inv : Inv state)
    (sound : Sound acts) (held : inbox state runId = ofActs acts) :
    Inv (store.finalState state calls) ∧
      Sound (acts ++ inboxActs runId (store.trace state calls)) ∧
      inbox (store.finalState state calls) runId =
        ofActs (acts ++ inboxActs runId (store.trace state calls)) := by
  induction calls generalizing state acts with
  | nil =>
    rw [trace, inboxActs, List.map_nil, List.append_nil]
    exact ⟨inv, sound, held⟩
  | cons entry rest ih =>
    obtain ⟨call, clock⟩ := entry
    have step := inboxes.step call clock state runId inv
    rw [held] at step
    have continued := ih _ _ (inboxes.preserved call clock state inv) (step.sound sound)
      (step.ofActs sound)
    rw [List.append_assoc] at continued
    exact continued

theorem reached (inboxes : store.Inboxes Inv inbox) (runId : String)
    (calls : List (StoreCall × Nat)) : Inv (store.finalState store.initial calls) ∧
      Sound (inboxActs runId (store.trace store.initial calls)) ∧
      inbox (store.finalState store.initial calls) runId =
        ofActs (inboxActs runId (store.trace store.initial calls)) :=
  inboxes.run runId store.initial [] calls inboxes.initial sound_nil (inboxes.empty runId)

end StoreImplementation.Inboxes

end Anastom
