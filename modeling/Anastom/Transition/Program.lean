import Mathlib.Logic.Basic

/-! Programs that put questions to a world, and rules for what holds at every question
they ever put to it. A driver is such a program with local variables and a failure that
it may throw and catch. -/
namespace Anastom

/-- The questions a program may put, each with the type of its answers. -/
structure Interface where
  Call : Type
  Answer : Call → Type

inductive Program (I : Interface) (α : Type) where
  | done (a : α)
  /-- A loop that ran past its bound. -/
  | cut
  | call (c : I.Call) (next : I.Answer c → Program I α)

/-- One question with its answer, between two states of the world. -/
structure Exchange (I : Interface) (W : Type) where
  before : W
  call : I.Call
  answer : I.Answer call
  after : W

/-- What a program may rely on when it gets an answer, and what it owes at each question.
`cuts` says whether a loop may run past its bound. -/
structure Contract (I : Interface) where
  World : Type
  gets : (c : I.Call) → World → I.Answer c → World → Prop
  owes : I.Call → World → Prop
  cuts : Prop

namespace Program
variable {I : Interface} {α β : Type}

def bind : Program I α → (α → Program I β) → Program I β
  | done a, f => f a
  | cut, _ => cut
  | call c next, f => call c fun answer => (next answer).bind f

instance : Monad (Program I) where
  pure := done
  bind := bind

/-- Every run of the program pays what it owes and ends in `Q`. -/
def Meets (C : Contract I) : Program I α → C.World → (α → C.World → Prop) → Prop
  | done a, w, Q => Q a w
  | cut, _, _ => C.cuts
  | call c next, w, Q => C.owes c w ∧ ∀ answer v, C.gets c w answer v → (next answer).Meets C v Q

variable {C : Contract I} {w : C.World}

theorem Meets.imp {program : Program I α} {Q R : α → C.World → Prop}
    (meets : program.Meets C w Q) (weaker : ∀ a v, Q a v → R a v) : program.Meets C w R := by
  induction program generalizing w with
  | done a => exact weaker a w meets
  | cut => exact meets
  | call c next ih => exact ⟨meets.1, fun answer v got => ih answer (meets.2 answer v got)⟩

theorem meets_bind {program : Program I α} {f : α → Program I β} {Q : β → C.World → Prop} :
    (program.bind f).Meets C w Q ↔ program.Meets C w fun a v => (f a).Meets C v Q := by
  induction program generalizing w with
  | done a => exact Iff.rfl
  | cut => exact Iff.rfl
  | call c next ih =>
    exact and_congr_right fun _ => forall_congr' fun answer => forall_congr' fun v =>
      imp_congr_right fun _ => ih answer

/-- Answers that what is owed rules out need not be considered. -/
theorem Meets.restrict {gets : (c : I.Call) → C.World → I.Answer c → C.World → Prop}
    {program : Program I α} {Q : α → C.World → Prop} (meets : program.Meets C w Q)
    (included : ∀ c w answer v, C.owes c w → gets c w answer v → C.gets c w answer v) :
    program.Meets { C with gets := gets } w Q := by
  induction program generalizing w with
  | done a => exact meets
  | cut => exact meets
  | call c next ih =>
    exact ⟨meets.1, fun answer v got => ih answer (meets.2 answer v (included _ _ _ _ meets.1 got))⟩

/-- The exchanges after which a program has become another one. -/
inductive Runs (gets : (c : I.Call) → W → I.Answer c → W → Prop) :
    Program I α → W → List (Exchange I W) → Program I α → W → Prop where
  | refl (program : Program I α) (w : W) : Runs gets program w [] program w
  | step {c : I.Call} {next : I.Answer c → Program I α} {w v u : W} {answer : I.Answer c}
      {exchanges : List (Exchange I W)} {program : Program I α} (got : gets c w answer v)
      (rest : Runs gets (next answer) v exchanges program u) :
      Runs gets (call c next) w (⟨w, c, answer, v⟩ :: exchanges) program u

/-- Every exchange of a run is answered as calls are. -/
theorem Runs.answered {gets : (c : I.Call) → W → I.Answer c → W → Prop} {program rest : Program I α}
    {w v : W} {exchanges : List (Exchange I W)} (runs : Runs gets program w exchanges rest v) :
    ∀ exchange ∈ exchanges,
      gets exchange.call exchange.before exchange.answer exchange.after := by
  induction runs with
  | refl => exact fun _ member => absurd member List.not_mem_nil
  | step got _ ih => exact List.forall_mem_cons.mpr ⟨got, ih⟩

/-- What a program owes has been paid at every question of every run, and is owed by
what is left of it. -/
theorem Meets.runs {program rest : Program I α} {Q : α → C.World → Prop} {v : C.World}
    {exchanges : List (Exchange I C.World)} (meets : program.Meets C w Q)
    (runs : Runs C.gets program w exchanges rest v) :
    (∀ exchange ∈ exchanges, C.owes exchange.call exchange.before) ∧ rest.Meets C v Q := by
  induction runs with
  | refl => exact ⟨by simp, meets⟩
  | step got _ ih =>
    obtain ⟨paid, later⟩ := ih (meets.2 _ _ got)
    exact ⟨List.forall_mem_cons.mpr ⟨meets.1, paid⟩, later⟩

/-- The exchanges of a run whose answers an oracle gives. -/
def play (oracle : (c : I.Call) → W → I.Answer c × W) :
    Nat → Program I α → W → List (Exchange I W)
  | fuel + 1, call c next, w =>
    ⟨w, c, (oracle c w).1, (oracle c w).2⟩ ::
      play oracle fuel (next (oracle c w).1) (oracle c w).2
  | _, _, _ => []

theorem play_answered {gets : (c : I.Call) → W → I.Answer c → W → Prop}
    {oracle : (c : I.Call) → W → I.Answer c × W}
    (answers : ∀ c w, gets c w (oracle c w).1 (oracle c w).2) (fuel : Nat) (program : Program I α)
    (w : W) : ∀ exchange ∈ play oracle fuel program w,
      gets exchange.call exchange.before exchange.answer exchange.after := by
  induction fuel generalizing program w with
  | zero => exact fun _ member => absurd member List.not_mem_nil
  | succ fuel ih =>
    cases program with
    | done a => exact fun _ member => absurd member List.not_mem_nil
    | cut => exact fun _ member => absurd member List.not_mem_nil
    | call c next => exact List.forall_mem_cons.mpr ⟨answers c w, ih _ _⟩

/-- What is played is a run when it is answered as calls are. -/
theorem runs_play {gets : (c : I.Call) → W → I.Answer c → W → Prop}
    {oracle : (c : I.Call) → W → I.Answer c × W} {fuel : Nat} {program : Program I α} {w : W}
    (answered : ∀ exchange ∈ play oracle fuel program w,
      gets exchange.call exchange.before exchange.answer exchange.after) :
    ∃ rest v, Runs gets program w (play oracle fuel program w) rest v := by
  induction fuel generalizing program w with
  | zero => exact ⟨program, w, .refl program w⟩
  | succ fuel ih =>
    cases program with
    | done a => exact ⟨.done a, w, .refl _ w⟩
    | cut => exact ⟨.cut, w, .refl _ w⟩
    | call c next =>
      obtain ⟨first, later⟩ := List.forall_mem_cons.mp answered
      obtain ⟨rest, v, runs⟩ := ih later
      exact ⟨rest, v, .step first runs⟩

end Program

/-- A program with local variables `σ` that outlive a failure it throws. -/
def Driver (I : Interface) (ε σ α : Type) : Type := σ → Program I (Except ε α × σ)

namespace Driver
variable {I : Interface} {ε σ τ α β : Type}

def bind (x : Driver I ε σ α) (f : α → Driver I ε σ β) : Driver I ε σ β := fun s =>
  (x s).bind fun
    | (.ok a, t) => f a t
    | (.error e, t) => .done (.error e, t)

instance : Monad (Driver I ε σ) where
  pure a := fun s => .done (.ok a, s)
  bind := bind

def throw (e : ε) : Driver I ε σ α := fun s => .done (.error e, s)

def tryCatch (x : Driver I ε σ α) (handler : ε → Driver I ε σ α) : Driver I ε σ α := fun s =>
  (x s).bind fun
    | (.ok a, t) => .done (.ok a, t)
    | (.error e, t) => handler e t

def get : Driver I ε σ σ := fun s => .done (.ok s, s)

def modify (f : σ → σ) : Driver I ε σ Unit := fun s => .done (.ok (), f s)

/-- The result of a computation that needs no answers. -/
def lift (result : Except ε α) : Driver I ε σ α := fun s => .done (result, s)

def ask (c : I.Call) : Driver I ε σ (I.Answer c) := fun s =>
  .call c fun answer => .done (.ok answer, s)

def cut : Driver I ε σ α := fun _ => .cut

/-- Run a driver with local variables of its own. -/
def withLocals (x : Driver I ε τ α) (t : τ) : Driver I ε σ (α × τ) := fun s =>
  (x t).bind fun
    | (.ok a, final) => .done (.ok (a, final), s)
    | (.error e, _) => .done (.error e, s)

/-- Every run of the driver from these local variables pays what it owes and ends in `Q`. -/
def Meets (C : Contract I) (x : Driver I ε σ α) (s : σ) (w : C.World)
    (Q : Except ε α → σ → C.World → Prop) : Prop :=
  (x s).Meets C w fun result v => Q result.1 result.2 v

variable {C : Contract I} {s : σ} {w : C.World}

theorem Meets.imp {x : Driver I ε σ α} {Q R : Except ε α → σ → C.World → Prop}
    (meets : x.Meets C s w Q) (weaker : ∀ result t v, Q result t v → R result t v) :
    x.Meets C s w R :=
  Program.Meets.imp meets fun result v => weaker result.1 result.2 v

/-- `Q` of a value and `R` of a failure. -/
def Either (Q : α → σ → C.World → Prop) (R : ε → σ → C.World → Prop) :
    Except ε α → σ → C.World → Prop
  | .ok a => Q a
  | .error e => R e

@[simp] theorem meets_pure {a : α} {Q : Except ε α → σ → C.World → Prop} :
    Meets C (pure a : Driver I ε σ α) s w Q ↔ Q (.ok a) s w := Iff.rfl

@[simp] theorem meets_throw {e : ε} {Q : Except ε α → σ → C.World → Prop} :
    Meets C (throw e : Driver I ε σ α) s w Q ↔ Q (.error e) s w := Iff.rfl

@[simp] theorem meets_lift {result : Except ε α} {Q : Except ε α → σ → C.World → Prop} :
    Meets C (lift result : Driver I ε σ α) s w Q ↔ Q result s w := Iff.rfl

@[simp] theorem meets_get {Q : Except ε σ → σ → C.World → Prop} :
    Meets C (get : Driver I ε σ σ) s w Q ↔ Q (.ok s) s w := Iff.rfl

@[simp] theorem meets_modify {f : σ → σ} {Q : Except ε Unit → σ → C.World → Prop} :
    Meets C (modify f : Driver I ε σ Unit) s w Q ↔ Q (.ok ()) (f s) w := Iff.rfl

@[simp] theorem meets_cut {Q : Except ε α → σ → C.World → Prop} :
    Meets C (cut : Driver I ε σ α) s w Q ↔ C.cuts := Iff.rfl

theorem meets_ask {c : I.Call} {Q : Except ε (I.Answer c) → σ → C.World → Prop} :
    Meets C (ask c : Driver I ε σ (I.Answer c)) s w Q ↔
      C.owes c w ∧ ∀ answer v, C.gets c w answer v → Q (.ok answer) s v := Iff.rfl

theorem meets_bind {x : Driver I ε σ α} {f : α → Driver I ε σ β}
    {Q : Except ε β → σ → C.World → Prop} :
    Meets C (x >>= f) s w Q ↔
      Meets C x s w (Either (fun a t v => Meets C (f a) t v Q) fun e t v => Q (.error e) t v) := by
  unfold Meets
  refine Program.meets_bind.trans ⟨fun meets => meets.imp ?_, fun meets => meets.imp ?_⟩ <;>
    rintro ⟨_ | a, t⟩ v holds <;> exact holds

theorem meets_ask_bind {c : I.Call} {f : I.Answer c → Driver I ε σ β}
    {Q : Except ε β → σ → C.World → Prop} :
    Meets C (ask c >>= f) s w Q ↔
      C.owes c w ∧ ∀ answer v, C.gets c w answer v → Meets C (f answer) s v Q :=
  meets_bind.trans Iff.rfl

theorem meets_lift_bind {result : Except ε α} {f : α → Driver I ε σ β}
    {Q : Except ε β → σ → C.World → Prop} :
    Meets C (lift result >>= f) s w Q ↔
      Either (fun a t v => Meets C (f a) t v Q) (fun e t v => Q (.error e) t v) result s w :=
  meets_bind.trans Iff.rfl

theorem meets_tryCatch {x : Driver I ε σ α} {handler : ε → Driver I ε σ α}
    {Q : Except ε α → σ → C.World → Prop} :
    Meets C (tryCatch x handler) s w Q ↔
      Meets C x s w (Either (fun a t v => Q (.ok a) t v) fun e t v => Meets C (handler e) t v Q) := by
  unfold Meets
  refine Program.meets_bind.trans ⟨fun meets => meets.imp ?_, fun meets => meets.imp ?_⟩ <;>
    rintro ⟨_ | a, t⟩ v holds <;> exact holds

theorem meets_withLocals {x : Driver I ε τ α} {t : τ} {Q : Except ε (α × τ) → σ → C.World → Prop} :
    Meets C (withLocals x t : Driver I ε σ (α × τ)) s w Q ↔
      Meets C x t w (Either (fun a final v => Q (.ok (a, final)) s v)
        fun e _ v => Q (.error e) s v) := by
  unfold Meets
  refine Program.meets_bind.trans ⟨fun meets => meets.imp ?_, fun meets => meets.imp ?_⟩ <;>
    rintro ⟨_ | a, final⟩ v holds <;> exact holds

end Driver
end Anastom
