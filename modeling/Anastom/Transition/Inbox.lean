import Anastom.Data.Keyed

/-! An inbox of requests. A request is posted once under its key, and stays pending
until the one acknowledgement of that key. -/
namespace Anastom.Inbox
universe u v
variable {ρ : Type u} {κ : Type v} [Keyed ρ κ] [DecidableEq κ]

inductive Act (ρ : Type u) (κ : Type v) where
  | post (request : ρ)
  | acknowledge (key : κ)
  | other
  deriving DecidableEq, Repr

structure Posted (ρ : Type u) where
  request : ρ
  acknowledged : Bool
  deriving DecidableEq, Repr

instance : Keyed (Posted ρ) κ := ⟨fun posted => Keyed.key posted.request⟩

/-- Mark the request of one key. -/
def acknowledge (inbox : List (Posted ρ)) (key : κ) : List (Posted ρ) :=
  Keyed.modify inbox key fun posted => { posted with acknowledged := true }

/-- One act on the inbox. -/
inductive Step : List (Posted ρ) → Act ρ κ → List (Posted ρ) → Prop where
  | post {inbox request} : Keyed.find inbox (Keyed.key request) = none →
      Step inbox (.post request) (inbox ++ [⟨request, false⟩])
  | acknowledge {inbox key request} : Keyed.find inbox key = some ⟨request, false⟩ →
      Step inbox (.acknowledge key) (acknowledge inbox key)
  | other {inbox} : Step inbox .other inbox

/-- The requests posted, in the order of their posts. -/
def requests (acts : List (Act ρ κ)) : List ρ :=
  acts.filterMap fun
    | .post request => some request
    | _ => none

def acknowledgements (acts : List (Act ρ κ)) : List κ :=
  acts.filterMap fun
    | .acknowledge key => some key
    | _ => none

/-- The requests posted and not acknowledged. -/
def pending (acts : List (Act ρ κ)) : List ρ :=
  (requests acts).filter fun request => decide (Keyed.key request ∉ acknowledgements acts)

/-- The inbox that the acts leave. -/
def ofActs (acts : List (Act ρ κ)) : List (Posted ρ) :=
  (requests acts).map fun request =>
    ⟨request, decide (Keyed.key request ∈ acknowledgements acts)⟩

omit [Keyed ρ κ] [DecidableEq κ] in
theorem requests_append (first rest : List (Act ρ κ)) :
    requests (first ++ rest) = requests first ++ requests rest := List.filterMap_append

omit [Keyed ρ κ] [DecidableEq κ] in
theorem acknowledgements_append (first rest : List (Act ρ κ)) :
    acknowledgements (first ++ rest) = acknowledgements first ++ acknowledgements rest :=
  List.filterMap_append

/-- Every request has its own key, and every acknowledgement its own request. -/
structure Sound (acts : List (Act ρ κ)) : Prop where
  distinct : Keyed.Distinct (requests acts)
  once : (acknowledgements acts).Nodup
  known : ∀ key ∈ acknowledgements acts, key ∈ Keyed.keys (requests acts)

omit [DecidableEq κ] in
theorem sound_nil : Sound ([] : List (Act ρ κ)) where
  distinct := List.Pairwise.nil
  once := List.Pairwise.nil
  known := by intro _ member; cases member

theorem find_ofActs (acts : List (Act ρ κ)) (key : κ) :
    Keyed.find (ofActs acts) key = (Keyed.find (requests acts) key).map fun request =>
      ⟨request, decide (key ∈ acknowledgements acts)⟩ := by
  unfold ofActs
  generalize acknowledgements acts = marked
  induction requests acts with
  | nil => rfl
  | cons request rest ih =>
    rw [List.map_cons, Keyed.find_cons, Keyed.find_cons, ih]
    have own : Keyed.key (⟨request, decide (Keyed.key request ∈ marked)⟩ : Posted ρ) =
      Keyed.key request := rfl
    rw [own]
    by_cases same : Keyed.key request = key
    · simp [same]
    · simp [same]

theorem Sound.find {acts : List (Act ρ κ)} {request : ρ} (sound : Sound acts)
    (posted : request ∈ requests acts) : Keyed.find (ofActs acts) (Keyed.key request) =
      some ⟨request, decide (Keyed.key request ∈ acknowledgements acts)⟩ := by
  rw [find_ofActs, Keyed.find_of_mem sound.distinct posted]
  rfl

/-- A step of the inbox extends the acts that it comes from, and keeps them sound. -/
theorem Step.sound {acts : List (Act ρ κ)} {act : Act ρ κ} {next : List (Posted ρ)}
    (sound : Sound acts) (step : Step (ofActs acts) act next) : Sound (acts ++ [act]) := by
  generalize held : ofActs acts = inbox at step
  cases step with
  | @post request fresh =>
    subst held
    rw [find_ofActs, Option.map_eq_none_iff] at fresh
    have unposted : Keyed.key request ∉ Keyed.keys (requests acts) := by
      rw [← Keyed.find_isSome, fresh]
      simp
    refine ⟨?_, ?_, ?_⟩
    · rw [requests_append]
      exact sound.distinct.append_one unposted
    · rw [acknowledgements_append]
      simpa [acknowledgements] using sound.once
    · intro key member
      rw [acknowledgements_append] at member
      rw [requests_append, Keyed.keys, List.map_append]
      exact List.mem_append_left _ (sound.known key (by simpa [acknowledgements] using member))
  | @acknowledge key request found =>
    subst held
    rw [find_ofActs] at found
    obtain ⟨posted, present, same⟩ := Option.map_eq_some_iff.mp found
    have unmarked : key ∉ acknowledgements acts :=
      of_decide_eq_false (Posted.mk.inj same).2
    have posts : requests (acts ++ [Act.acknowledge key]) = requests acts := by
      rw [requests_append]
      exact List.append_nil _
    refine ⟨posts ▸ sound.distinct, ?_, ?_⟩
    · rw [acknowledgements_append]
      refine List.nodup_append.mpr ⟨sound.once, List.nodup_singleton key, ?_⟩
      intro earlier member last added
      rw [List.mem_singleton.mp added]
      rintro rfl
      exact unmarked member
    · intro other member
      rw [posts]
      rw [acknowledgements_append] at member
      rcases List.mem_append.mp member with earlier | last
      · exact sound.known other earlier
      · rw [List.mem_singleton.mp last]
        exact Keyed.find_isSome.mp (by rw [present]; rfl)
  | other =>
    refine ⟨?_, ?_, ?_⟩
    · simpa [requests] using sound.distinct
    · simpa [acknowledgements] using sound.once
    · simpa [requests, acknowledgements] using sound.known

theorem Step.ofActs {acts : List (Act ρ κ)} {act : Act ρ κ} {next : List (Posted ρ)}
    (sound : Sound acts) (step : Step (ofActs acts) act next) : next = ofActs (acts ++ [act]) := by
  generalize held : Inbox.ofActs acts = inbox at step
  cases step with
  | @post request fresh =>
    subst held
    rw [find_ofActs, Option.map_eq_none_iff] at fresh
    have unmarked : Keyed.key request ∉ acknowledgements acts := by
      intro member
      have posted := Keyed.find_isSome.mpr (sound.known _ member)
      rw [fresh] at posted
      cases posted
    simp [Inbox.ofActs, requests, acknowledgements] at unmarked ⊢
    exact unmarked
  | @acknowledge key request found =>
    subst held
    unfold Inbox.acknowledge Inbox.ofActs Keyed.modify
    rw [requests_append, acknowledgements_append, List.map_map]
    have none : requests [(Act.acknowledge key : Act ρ κ)] = [] := rfl
    have one : acknowledgements [(Act.acknowledge key : Act ρ κ)] = [key] := rfl
    rw [none, one, List.append_nil]
    refine List.map_congr_left fun posted _ => ?_
    have own (marked : Bool) : Keyed.key (⟨posted, marked⟩ : Posted ρ) = Keyed.key posted := rfl
    by_cases same : Keyed.key posted = key
    · simp [own, same]
    · simp [own, same]
  | other => simp [← held, Inbox.ofActs, requests, acknowledgements]

/-- What holds of every request posted holds of every request in the inbox. -/
theorem Step.holds {P : ρ → Prop} {inbox next : List (Posted ρ)} {act : Act ρ κ}
    (step : Step inbox act next) (held : ∀ posted ∈ inbox, P posted.request)
    (fresh : ∀ request, act = .post request → P request) : ∀ posted ∈ next, P posted.request := by
  intro posted member
  cases step with
  | post =>
    rcases List.mem_append.mp member with earlier | last
    · exact held posted earlier
    · rw [List.mem_singleton.mp last]
      exact fresh _ rfl
  | acknowledge =>
    obtain ⟨before, present, ⟨_, rfl⟩ | ⟨_, rfl⟩⟩ := Keyed.mem_modify.mp member
    · exact held before present
    · exact held posted present
  | other => exact held posted member

end Anastom.Inbox
