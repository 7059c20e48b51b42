import Mathlib.Data.List.Forall2

/-! When computations that may fail succeed. -/
namespace Anastom
variable {ε : Type u}

theorem bind_ok {x : Except ε α} {f : α → Except ε β} {b : β} :
    (x >>= f) = .ok b ↔ ∃ a, x = .ok a ∧ f a = .ok b := by
  cases x <;> simp [bind, Except.bind]

/-- What follows a computation matters only where the computation succeeds. -/
theorem bind_congr_ok {x : Except ε α} {f g : α → Except ε β}
    (same : ∀ a, x = .ok a → f a = g a) : (x >>= f) = (x >>= g) := by
  cases x with
  | error failure => rfl
  | ok a => exact same a rfl

/-- A list of computations succeeds when each of them does. -/
theorem mapM_ok {f : α → Except ε β} {inputs : List α} {outputs : List β} :
    inputs.mapM f = .ok outputs ↔ List.Forall₂ (fun a b => f a = .ok b) inputs outputs := by
  induction inputs generalizing outputs with
  | nil =>
    rw [List.mapM_nil, List.forall₂_nil_left_iff]
    exact ⟨fun same => (Except.ok.inj same).symm, fun same => by rw [same]; rfl⟩
  | cons a rest ih =>
    rw [List.mapM_cons, List.forall₂_cons_left_iff, bind_ok]
    constructor
    · rintro ⟨b, computed, continued⟩
      obtain ⟨others, tail, same⟩ := bind_ok.mp continued
      exact ⟨b, others, computed, ih.mp tail, (Except.ok.inj same).symm⟩
    · rintro ⟨b, others, computed, tail, rfl⟩
      exact ⟨b, computed, bind_ok.mpr ⟨others, ih.mpr tail, rfl⟩⟩

theorem forall₂_left {R : α → β → Prop} {left : List α} {right : List β}
    (related : List.Forall₂ R left right) {a : α} (member : a ∈ left) : ∃ b ∈ right, R a b := by
  induction related with
  | nil => cases member
  | @cons _ b _ _ head _ ih =>
    rcases List.mem_cons.mp member with rfl | member
    · exact ⟨b, List.mem_cons_self, head⟩
    · obtain ⟨b, inside, holds⟩ := ih member
      exact ⟨b, List.mem_cons_of_mem _ inside, holds⟩

theorem forall₂_right {R : α → β → Prop} {left : List α} {right : List β}
    (related : List.Forall₂ R left right) : ∀ b ∈ right, ∃ a ∈ left, R a b :=
  fun _ member => forall₂_left related.flip member

theorem lookup_mem {κ : Type u} {α : Type v} [BEq κ] [LawfulBEq κ] {entries : List (κ × α)} {k : κ}
    {a : α} (found : entries.lookup k = some a) : (k, a) ∈ entries := by
  obtain ⟨before, after, rfl, _⟩ := List.lookup_eq_some_iff.mp found
  exact List.mem_append_right _ List.mem_cons_self

end Anastom
