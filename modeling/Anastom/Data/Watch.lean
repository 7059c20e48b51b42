import Mathlib.Logic.Basic

/-! Machines that read inputs one by one until a step fails, and what may be seen of them.
Where a step commutes with a view of the state and an erasure of the input, the view of a
run depends on nothing that the erasure takes away. -/
namespace Anastom.Watch

variable {σ σ' ι ι' ε : Type}

/-- The state that a run reaches, and the failure that stopped it. -/
def run (step : σ → ι → Except ε σ) : σ → List ι → σ × Option ε
  | state, [] => (state, none)
  | state, input :: rest =>
    match step state input with
    | .error failure => (state, some failure)
    | .ok next => run step next rest

variable {step : σ → ι → Except ε σ} {state : σ} {input : ι} {rest : List ι}

theorem run_error {failure : ε} (failed : step state input = .error failure) :
    run step state (input :: rest) = (state, some failure) := by
  rw [run, failed]

theorem run_ok {next : σ} (stepped : step state input = .ok next) :
    run step state (input :: rest) = run step next rest := by
  rw [run, stepped]

/-- A run that read all its inputs read the first of them. -/
theorem run_cons {last : σ} (ran : run step state (input :: rest) = (last, none)) :
    ∃ next, step state input = .ok next ∧ run step next rest = (last, none) := by
  cases stepped : step state input with
  | error failure =>
    rw [run_error stepped] at ran
    cases ran
  | ok next =>
    rw [run_ok stepped] at ran
    exact ⟨next, rfl, ran⟩

theorem run_append {first second : List ι} {last : σ} :
    run step state (first ++ second) = (last, none) ↔
      ∃ mid, run step state first = (mid, none) ∧ run step mid second = (last, none) := by
  induction first generalizing state with
  | nil =>
    constructor
    · exact fun ran => ⟨state, rfl, ran⟩
    · rintro ⟨mid, ⟨⟩, ran⟩
      exact ran
  | cons input rest ih =>
    constructor
    · intro ran
      obtain ⟨next, stepped, later⟩ := run_cons ran
      obtain ⟨mid, before, after⟩ := ih.mp later
      exact ⟨mid, by rw [run_ok stepped, before], after⟩
    · rintro ⟨mid, before, after⟩
      obtain ⟨next, stepped, later⟩ := run_cons before
      rw [List.cons_append, run_ok stepped]
      exact ih.mpr ⟨mid, later, after⟩

/-- What every step preserves, a run preserves. -/
theorem run_invariant (Invariant : σ → Prop)
    (kept : ∀ state input next, Invariant state → step state input = .ok next → Invariant next)
    {inputs : List ι} (held : Invariant state) : Invariant (run step state inputs).1 := by
  induction inputs generalizing state with
  | nil => exact held
  | cons input rest ih =>
    cases stepped : step state input with
    | error failure =>
      rw [run_error stepped]
      exact held
    | ok next =>
      rw [run_ok stepped]
      exact ih (kept state input next held stepped)

/-- What every step keeps of the inputs read so far, a run that reads them all keeps. -/
theorem run_history (History : σ → List ι → Prop)
    (kept : ∀ state seen input next, History state seen → step state input = .ok next →
      History next (seen ++ [input]))
    {seen inputs : List ι} {last : σ} (held : History state seen)
    (ran : run step state inputs = (last, none)) : History last (seen ++ inputs) := by
  induction inputs generalizing state seen with
  | nil =>
    cases ran
    rw [List.append_nil]
    exact held
  | cons input rest ih =>
    obtain ⟨next, stepped, later⟩ := run_cons ran
    have reached := ih (kept state seen input next held stepped) later
    rwa [List.append_assoc, List.singleton_append] at reached

variable {ω π : Type} {view : σ → σ'} {erase : ι → π}

/-- What is emitted for a list of inputs is determined by what the erasure leaves of them. -/
def Unseen (erase : ι → π) (emitted : List ι → ω) : Prop :=
  ∀ inputs others, inputs.map erase = others.map erase → emitted inputs = emitted others

/-- Two runs whose inputs agree once erased keep their states alike, and fail alike. -/
theorem run_agree
    (agree : ∀ state other input input', view state = view other → erase input = erase input' →
      (step state input).map view = (step other input').map view)
    {inputs others : List ι} {other : σ} (same : inputs.map erase = others.map erase)
    (alike : view state = view other) :
    Prod.map view id (run step state inputs) = Prod.map view id (run step other others) := by
  induction inputs generalizing state other others with
  | nil =>
    obtain rfl : others = [] := List.map_eq_nil_iff.mp same.symm
    exact Prod.ext alike rfl
  | cons input rest ih =>
    obtain ⟨input', rest', rfl, erased, later⟩ := List.map_eq_cons_iff.mp same.symm
    have stepped := agree state other input input' alike erased.symm
    cases first : step state input with
    | error failure =>
      cases second : step other input' with
      | error failure' =>
        rw [first, second] at stepped
        rw [run_error first, run_error second, Except.error.inj stepped]
        exact Prod.ext alike rfl
      | ok next' =>
        rw [first, second] at stepped
        cases stepped
    | ok next =>
      cases second : step other input' with
      | error failure' =>
        rw [first, second] at stepped
        cases stepped
      | ok next' =>
        rw [first, second] at stepped
        rw [run_ok first, run_ok second]
        exact ih later.symm (Except.ok.inj stepped)

/-- What a run shows through the view is determined by what is left of its inputs. -/
theorem unseen_run (init : σ) (shown : σ' × Option ε → ω)
    (agree : ∀ state other input input', view state = view other → erase input = erase input' →
      (step state input).map view = (step other input').map view) :
    Unseen erase fun inputs => shown (Prod.map view id (run step init inputs)) := by
  intro inputs others same
  exact congrArg shown (run_agree agree same rfl)

theorem unseen_fold {step : σ → ι → σ} (init : σ)
    (same : ∀ state input input', erase input = erase input' →
      step state input = step state input') :
    Unseen erase fun inputs => inputs.foldl step init := by
  intro inputs
  induction inputs generalizing init with
  | nil =>
    intro others alike
    rw [List.map_eq_nil_iff.mp alike.symm]
  | cons input rest ih =>
    intro others alike
    obtain ⟨input', rest', rfl, erased, later⟩ := List.map_eq_cons_iff.mp alike.symm
    have stepped := same init input input' erased.symm
    exact (ih (step init input) rest' later.symm).trans
      (congrArg (rest'.foldl step) stepped)

theorem unseen_filterMap {emit : ι → Option ω}
    (same : ∀ input input', erase input = erase input' → emit input = emit input') :
    Unseen erase (List.filterMap emit) := by
  intro inputs
  induction inputs with
  | nil =>
    intro others alike
    rw [List.map_eq_nil_iff.mp alike.symm]
  | cons input rest ih =>
    intro others alike
    obtain ⟨input', rest', rfl, erased, later⟩ := List.map_eq_cons_iff.mp alike.symm
    rw [List.filterMap_cons, List.filterMap_cons, same input input' erased.symm,
      ih rest' later.symm]

end Anastom.Watch
