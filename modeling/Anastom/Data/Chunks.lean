import Mathlib.Logic.Basic

/-! Incremental decoders: machines that take input item by item and put out values on the
way. A reader of whole chunks that does what the machine does to every item of a chunk
cannot see how its input was cut. -/
namespace Anastom.Chunks

variable {σ ι α ε : Type}

/-- A step to a next state with the values put out on the way. -/
abbrev Outcome (ε σ α : Type) : Type := Except ε (σ × List α)

/-- The rest of a run after an outcome, its values behind those already put out. -/
def chain : Outcome ε σ α → (σ → Outcome ε σ α) → Outcome ε σ α
  | .error failure, _ => .error failure
  | .ok (state, values), rest =>
    match rest state with
    | .error failure => .error failure
    | .ok (last, more) => .ok (last, values ++ more)

/-- Feeds a sequence of items to a machine. -/
def feed (step : σ → ι → Outcome ε σ α) : σ → List ι → Outcome ε σ α
  | state, [] => .ok (state, [])
  | state, item :: rest => chain (step state item) fun next => feed step next rest

@[simp] theorem chain_error (failure : ε) (rest : σ → Outcome ε σ α) :
    chain (.error failure) rest = .error failure := rfl

theorem chain_ok {first : Outcome ε σ α} {rest : σ → Outcome ε σ α} {last : σ} {values : List α} :
    chain first rest = .ok (last, values) ↔ ∃ state before after,
      first = .ok (state, before) ∧ rest state = .ok (last, after) ∧ values = before ++ after := by
  constructor
  · intro ran
    cases first with
    | error failure => cases ran
    | ok reached =>
      obtain ⟨state, before⟩ := reached
      rw [chain] at ran
      cases more : rest state with
      | error failure =>
        rw [more] at ran
        cases ran
      | ok ended =>
        rw [more] at ran
        cases ran
        exact ⟨state, before, ended.2, rfl, more, rfl⟩
  · rintro ⟨state, before, after, rfl, ended, rfl⟩
    rw [chain, ended]

/-- A step that puts out nothing leaves the rest of the run as it is. -/
theorem chain_silent (state : σ) (rest : σ → Outcome ε σ α) :
    chain (.ok (state, [])) rest = rest state := by
  rw [chain]
  cases rest state with
  | error failure => rfl
  | ok ended => rfl

theorem chain_stop (first : Outcome ε σ α) : chain first (fun state => .ok (state, [])) = first := by
  cases first with
  | error failure => rfl
  | ok reached => simp [chain]

theorem chain_assoc (first : Outcome ε σ α) (second third : σ → Outcome ε σ α) :
    chain (chain first second) third = chain first fun state => chain (second state) third := by
  cases first with
  | error failure => rfl
  | ok reached =>
    obtain ⟨state, before⟩ := reached
    simp only [chain]
    cases second state with
    | error failure => rfl
    | ok ended =>
      obtain ⟨next, between⟩ := ended
      dsimp only
      cases third next with
      | error failure => rfl
      | ok final => simp only [List.append_assoc]

theorem chain_congr {first : Outcome ε σ α} {second third : σ → Outcome ε σ α}
    (same : ∀ state values, first = .ok (state, values) → second state = third state) :
    chain first second = chain first third := by
  cases first with
  | error failure => rfl
  | ok reached => simp only [chain, same reached.1 reached.2 rfl]

variable {step : σ → ι → Outcome ε σ α}

theorem feed_append (state : σ) (first second : List ι) :
    feed step state (first ++ second) =
      chain (feed step state first) fun next => feed step next second := by
  induction first generalizing state with
  | nil => rw [List.nil_append, feed, chain_silent]
  | cons item rest ih =>
    rw [List.cons_append, feed, feed, chain_assoc]
    exact congrArg _ (funext fun next => ih next)

/-- What every step preserves, a run preserves. -/
theorem feed_invariant {Invariant : σ → Prop}
    (kept : ∀ state item next values, Invariant state → step state item = .ok (next, values) →
      Invariant next) {state last : σ} {items : List ι} {values : List α}
    (held : Invariant state) (ran : feed step state items = .ok (last, values)) :
    Invariant last := by
  induction items generalizing state values with
  | nil =>
    cases ran
    exact held
  | cons item rest ih =>
    obtain ⟨next, before, after, stepped, rested, _⟩ := chain_ok.mp ran
    exact ih (kept state item next before held stepped) rested

/-- A reader of chunks that agrees with a machine on every chunk reads any cut of a
sequence as the machine reads the sequence. -/
theorem feed_chunks {Invariant : σ → Prop} {push : σ → List ι → Outcome ε σ α}
    (agrees : ∀ state chunk, Invariant state → push state chunk = feed step state chunk)
    (kept : ∀ state item next values, Invariant state → step state item = .ok (next, values) →
      Invariant next) {state : σ} (held : Invariant state) (chunks : List (List ι)) :
    feed push state chunks = feed step state chunks.flatten := by
  induction chunks generalizing state with
  | nil => rfl
  | cons chunk rest ih =>
    rw [feed, List.flatten_cons, feed_append, agrees state chunk held]
    exact chain_congr fun next values ran => ih (feed_invariant kept held ran)

/-- A reader that may be given the parts of a chunk one after the other reads any cut of a
sequence as it reads the sequence at once. -/
theorem feed_flatten {Invariant : σ → Prop} {push : σ → List ι → Outcome ε σ α}
    (silent : ∀ state, Invariant state → push state [] = .ok (state, []))
    (splits : ∀ state first second, push state (first ++ second) =
      chain (push state first) fun next => push next second)
    (kept : ∀ state chunk next values, push state chunk = .ok (next, values) → Invariant next)
    {state : σ} (held : Invariant state) (chunks : List (List ι)) :
    feed push state chunks = push state chunks.flatten := by
  induction chunks generalizing state with
  | nil => rw [feed, List.flatten_nil, silent state held]
  | cons chunk rest ih =>
    rw [feed, List.flatten_cons, splits]
    exact chain_congr fun next values ran => ih (kept state chunk next values ran)

end Anastom.Chunks
