import Mathlib.Data.List.Induction

/-! Properties of each element of a list together with the elements before it. -/
namespace Anastom

/-- `P earlier a` holds of every element `a` and the elements `earlier` before it. -/
def Along {α : Type} (P : List α → α → Prop) (elements : List α) : Prop :=
  ∀ earlier a later, elements = earlier ++ a :: later → P earlier a

namespace Along
variable {α : Type} {P Q : List α → α → Prop} {elements : List α}

theorem nil : Along P [] := by
  intro earlier a later same
  simp at same

theorem concat {last : α} : Along P (elements ++ [last]) ↔ Along P elements ∧ P elements last := by
  constructor
  · intro along
    refine ⟨fun earlier a later same => ?_, along elements last [] rfl⟩
    exact along earlier a (later ++ [last]) (by rw [same, List.append_assoc, List.cons_append])
  · rintro ⟨along, final⟩ earlier a later same
    cases later using List.reverseRecOn with
    | nil =>
      obtain ⟨rfl, rfl⟩ := List.append_singleton_inj.mp same
      exact final
    | append_singleton later other =>
      rw [← List.cons_append, ← List.append_assoc] at same
      obtain ⟨before, rfl⟩ := List.append_singleton_inj.mp same
      exact along earlier a later before

theorem cons {first : α} : Along P (first :: elements) ↔
    P [] first ∧ Along (fun earlier a => P (first :: earlier) a) elements := by
  constructor
  · intro along
    refine ⟨along [] first elements rfl, fun earlier a later same => ?_⟩
    exact along (first :: earlier) a later (by rw [same, List.cons_append])
  · rintro ⟨head, tail⟩ earlier a later same
    cases earlier with
    | nil =>
      obtain ⟨rfl, _⟩ := List.cons.inj same
      exact head
    | cons other earlier =>
      obtain ⟨head, same⟩ := List.cons.inj (List.cons_append ▸ same)
      rw [← head]
      exact tail earlier a later same

theorem imp (along : Along P elements) (weaker : ∀ earlier a, P earlier a → Q earlier a) :
    Along Q elements :=
  fun earlier a later same => weaker earlier a (along earlier a later same)

/-- The property is checked element by element, each after the ones before it. -/
instance decidable (elements : List α) :
    (P : List α → α → Prop) → [∀ earlier a, Decidable (P earlier a)] → Decidable (Along P elements) :=
  match elements with
  | [] => fun _ => isTrue nil
  | first :: rest => fun P _ =>
    have := decidable rest fun earlier a => P (first :: earlier) a
    decidable_of_iff _ cons.symm

end Along

end Anastom
