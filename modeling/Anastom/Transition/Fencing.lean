import Mathlib.Data.List.Basic
import Mathlib.Order.Basic

/-! A fenced register. A grant replaces the held token by one of a later
generation; only the held token can be used, and only until it is released. -/
namespace Anastom.Fencing
variable {Token Generation : Type} [Preorder Generation]

inductive Act (Token : Type) where
  | grant (token : Token)
  | use (token : Token)
  | release (token : Token)
  | other
  deriving DecidableEq, Repr

structure Held (Token : Type) where
  token : Token
  released : Bool
  deriving DecidableEq, Repr

/-- One act on the register. -/
inductive Step (generation : Token → Generation) :
    Option (Held Token) → Act Token → Option (Held Token) → Prop where
  | grant {held token} : (∀ old ∈ held, generation old.token < generation token) →
      Step generation held (.grant token) (some ⟨token, false⟩)
  | use {token} : Step generation (some ⟨token, false⟩) (.use token) (some ⟨token, false⟩)
  | release {token released} :
      Step generation (some ⟨token, released⟩) (.release token) (some ⟨token, true⟩)
  | other {held} : Step generation held .other held

/-- The register has held the token: it still does, or holds a later one. -/
def Granted (generation : Token → Generation) (token : Token) (held : Option (Held Token)) :
    Prop :=
  ∃ last, held = some last ∧ (last.token = token ∨ generation token < generation last.token)

namespace Step
variable {generation : Token → Generation} {held next : Option (Held Token)} {act : Act Token}
  {token : Token}

theorem granted (step : Step generation held act next) (before : Granted generation token held) :
    Granted generation token next := by
  obtain ⟨last, rfl, since⟩ := before
  cases step with
  | @grant _ newer later =>
    have advanced := later last rfl
    refine ⟨_, rfl, .inr ?_⟩
    rcases since with rfl | earlier
    · exact advanced
    · exact earlier.trans advanced
  | use | release => exact ⟨_, rfl, since⟩
  | other => exact ⟨last, rfl, since⟩

/-- A token granted before is held only as long as nothing is granted. -/
theorem still_held (step : Step generation held act next)
    (before : Granted generation token held) (now : next.map Held.token = some token) :
    held.map Held.token = some token ∧ ∀ newer, act ≠ .grant newer := by
  obtain ⟨last, rfl, since⟩ := before
  cases step with
  | @grant _ newer later =>
    have advanced := later last rfl
    have same : newer = token := by simpa using now
    subst same
    rcases since with same | earlier
    · rw [same] at advanced
      exact absurd advanced (lt_irrefl _)
    · exact absurd (earlier.trans advanced) (lt_irrefl _)
  | use | release | other => exact ⟨now, by simp⟩

end Step

inductive Run (generation : Token → Generation) :
    Option (Held Token) → List (Act Token) → Option (Held Token) → Prop where
  | nil {held} : Run generation held [] held
  | cons {held next final act rest} : Step generation held act next →
      Run generation next rest final → Run generation held (act :: rest) final

def grants (acts : List (Act Token)) : List Token :=
  acts.filterMap fun
    | .grant token => some token
    | _ => none

/-- An act that presents a token. -/
def Act.presents (act : Act Token) (token : Token) : Prop :=
  act = .use token ∨ act = .release token

theorem grants_append (first rest : List (Act Token)) :
    grants (first ++ rest) = grants first ++ grants rest := List.filterMap_append

namespace Run
variable {generation : Token → Generation} {held middle final : Option (Held Token)}
  {acts first rest : List (Act Token)}

theorem split (run : Run generation held (first ++ rest) final) :
    ∃ middle, Run generation held first middle ∧ Run generation middle rest final := by
  induction first generalizing held with
  | nil => exact ⟨held, .nil, run⟩
  | cons act first ih =>
    cases run with
    | cons step continued =>
      obtain ⟨middle, before, after⟩ := ih continued
      exact ⟨middle, .cons step before, after⟩

/-- The register holds the last token granted, or the one it started with. -/
theorem held_token (run : Run generation held acts final) :
    final.map Held.token = (grants acts).getLast?.or (held.map Held.token) := by
  induction run with
  | nil => simp [grants]
  | @cons held next final act rest step _ ih =>
    rw [ih]
    cases step with
    | @grant _ token _ =>
      have unfolded : grants (Act.grant token :: rest) = token :: grants rest := rfl
      rw [unfolded]
      cases grants rest with
      | nil => rfl
      | cons other more => simp [List.getLast?_cons]
    | use | release | other => rfl

/-- Every token granted is newer than the one held at the start. -/
theorem grants_later (run : Run generation held acts final) :
    ∀ old ∈ held, ∀ token ∈ grants acts, generation old.token < generation token := by
  induction run with
  | nil => simp [grants]
  | @cons held next final act rest step _ ih =>
    intro old start token member
    cases step with
    | @grant _ first newer =>
      have advanced := newer old start
      have unfolded : grants (Act.grant first :: rest) = first :: grants rest := rfl
      rw [unfolded] at member
      rcases List.mem_cons.mp member with rfl | member
      · exact advanced
      · exact advanced.trans (ih ⟨first, false⟩ rfl token member)
    | use => exact ih old start token member
    | release =>
      cases start
      exact ih ⟨_, true⟩ rfl token member
    | other => exact ih old start token member

theorem grants_increase (run : Run generation held acts final) :
    (grants acts).Pairwise fun older newer => generation older < generation newer := by
  induction run with
  | nil => exact .nil
  | @cons held next final act rest step continued ih =>
    cases step with
    | @grant _ token _ => exact .cons (fun newer => continued.grants_later ⟨token, false⟩ rfl newer) ih
    | use | release | other => exact ih

/-- A release stays until a newer token is granted. -/
theorem released_kept {token : Token} (run : Run generation held acts final)
    (start : held = some ⟨token, true⟩) (quiet : grants acts = []) :
    final = some ⟨token, true⟩ := by
  induction run with
  | nil => exact start
  | cons step _ ih =>
    subst start
    cases step with
    | grant => simp [grants] at quiet
    | release => exact ih rfl quiet
    | other => exact ih rfl quiet

/-- A token that is presented is the last one granted. -/
theorem presented_current {act : Act Token} {token : Token}
    (run : Run generation none (first ++ act :: rest) final) (presented : act.presents token) :
    (grants first).getLast? = some token := by
  obtain ⟨middle, before, after⟩ := run.split
  have held := before.held_token
  simp only [Option.map_none, Option.or_none] at held
  rw [← held]
  cases after with
  | cons step _ => rcases presented with rfl | rfl <;> cases step <;> rfl

/-- A token that is used has not been released. -/
theorem used_unreleased {token : Token}
    (run : Run generation none (first ++ .use token :: rest) final) :
    Act.release token ∉ first := by
  intro member
  obtain ⟨earlier, later, rfl⟩ := List.append_of_mem member
  have current := run.presented_current (.inl rfl)
  obtain ⟨middle, before, after⟩ := run.split
  obtain ⟨_, _, continued⟩ := before.split
  cases continued with
  | cons step continued =>
    cases step with
    | release =>
      cases granted : grants later with
      | nil =>
        have kept := continued.released_kept rfl granted
        subst kept
        cases after with
        | cons step _ => cases step
      | cons newer more =>
        have last : (grants later).getLast? = some token := by
          have unfolded : grants (earlier ++ .release token :: later) =
              grants earlier ++ grants later := grants_append _ _
          rw [unfolded, List.getLast?_append, granted] at current
          rw [granted]
          simpa [List.getLast?_cons] using current
        have advanced := continued.grants_later ⟨token, true⟩ rfl token (List.mem_of_getLast? last)
        exact absurd advanced (lt_irrefl _)

/-- Once a newer token is granted, an older one is never presented again. -/
theorem superseded {act : Act Token} {older newer : Token}
    (run : Run generation none (first ++ act :: rest) final) (granted : newer ∈ grants first)
    (older_newer : generation older < generation newer) : ¬ act.presents older := by
  intro presented
  have current := run.presented_current presented
  obtain ⟨middle, before, _⟩ := run.split
  have increasing := before.grants_increase
  obtain ⟨previous, split⟩ := List.getLast?_eq_some_iff.mp current
  rw [split] at granted increasing
  rcases List.mem_append.mp granted with earlier | last
  · have := (List.pairwise_append.mp increasing).2.2 newer earlier older (by simp)
    exact absurd (older_newer.trans this) (lt_irrefl _)
  · rw [List.mem_singleton.mp last] at older_newer
    exact absurd older_newer (lt_irrefl _)

end Run
end Anastom.Fencing
