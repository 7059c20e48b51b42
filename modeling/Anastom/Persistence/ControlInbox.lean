import Anastom.Persistence.MemoryInbox
import Anastom.Persistence.SqliteInbox

/-! What the submitters and the owners of a run see of its inbox, over any sequence
of calls on either store. -/
namespace Anastom
open Inbox

/-- The requests of a run that the calls so far have submitted, first submissions only. -/
def submitted {σ : Type} (runId : String) (trace : List (Observed σ)) : List ControlRequest :=
  requests (inboxActs runId trace)

/-- The operation ids that the calls so far have acknowledged. -/
def acknowledged {σ : Type} (runId : String) (trace : List (Observed σ)) : List String :=
  acknowledgements (inboxActs runId trace)

namespace StoreImplementation.Inboxes
variable {store : StoreImplementation} {Inv : store.State → Prop}
  {inbox : store.State → String → List (Posted ControlRequest)}

/-- The state in which a call of a trace finds the store. -/
theorem before (inboxes : store.Inboxes Inv inbox) {calls : List (StoreCall × Nat)}
    {earlier later : List (Observed store.State)} {observed : Observed store.State}
    (split : store.trace store.initial calls = earlier ++ observed :: later) (runId : String) :
    Inv observed.before ∧ Sound (inboxActs runId earlier) ∧
      inbox observed.before runId = ofActs (inboxActs runId earlier) ∧
      store.perform observed.call observed.clock observed.before =
        (observed.result, observed.after) := by
  obtain ⟨first, rfl, before, performed⟩ := store.trace_split split
  obtain ⟨inv, sound, held⟩ := inboxes.reached runId first
  rw [← before] at inv held
  exact ⟨inv, sound, held, performed⟩

end StoreImplementation.Inboxes

end Anastom
