import Mathlib.Data.List.Sort
import Mathlib.Order.Defs.LinearOrder

/-! Insertion sort by a key is stable: elements with one key keep their order, so the
sorted list depends only on what the list holds under each key. -/
namespace Anastom.StableSort
variable {α : Type} {r : α → α → Prop} [DecidableRel r]

/-- Inserting leaves the elements of one class in order, the new one first. -/
theorem filter_orderedInsert {p : α → Bool} (related : ∀ a b, p a = true → p b = true → r a b)
    (a : α) (list : List α) :
    (list.orderedInsert r a).filter p = if p a = true then a :: list.filter p else list.filter p := by
  induction list with
  | nil => cases holds : p a <;> simp [holds]
  | cons b rest ih =>
    rw [List.orderedInsert_cons]
    by_cases first : r a b
    · rw [if_pos first, List.filter_cons]
    · have different : ¬ (p a = true ∧ p b = true) := fun both => first (related a b both.1 both.2)
      rw [if_neg first, List.filter_cons, ih, List.filter_cons]
      cases here : p b <;> cases new : p a <;> simp_all

theorem filter_insertionSort {p : α → Bool} (related : ∀ a b, p a = true → p b = true → r a b)
    (list : List α) : (list.insertionSort r).filter p = list.filter p := by
  induction list with
  | nil => rfl
  | cons a rest ih => rw [List.insertionSort_cons, filter_orderedInsert related, ih, List.filter_cons]

variable {κ : Type} [DecidableEq κ] {key : α → κ}

omit [DecidableRel r] in
/-- Two sorted lists that hold the same elements under each key are the same. -/
theorem sorted_ext (antisymm : ∀ a b, r a b → r b a → key a = key b) {left right : List α}
    (sorted : left.Pairwise r) (sorted' : right.Pairwise r)
    (same : ∀ k, left.filter (fun a => decide (key a = k)) =
      right.filter fun a => decide (key a = k)) : left = right := by
  have member {a : α} : a ∈ left ↔ a ∈ right := by
    have here := congrArg (a ∈ ·) (same (key a))
    simpa using here
  induction left generalizing right with
  | nil =>
    cases right with
    | nil => rfl
    | cons b rest => exact absurd (member.mpr List.mem_cons_self) List.not_mem_nil
  | cons a left ih =>
    cases right with
    | nil => exact absurd (member.mp List.mem_cons_self) List.not_mem_nil
    | cons b right =>
      have keys : key a = key b := by
        rcases List.mem_cons.mp (member.mp List.mem_cons_self) with rfl | later
        · rfl
        · rcases List.mem_cons.mp (member.mpr List.mem_cons_self) with rfl | later'
          · rfl
          · exact antisymm a b (List.rel_of_pairwise_cons sorted later')
              (List.rel_of_pairwise_cons sorted' later)
      have heads := same (key a)
      rw [List.filter_cons_of_pos (by simp), List.filter_cons_of_pos (by simp [keys])] at heads
      obtain ⟨rfl, _⟩ := List.cons.inj heads
      have tails (k : κ) : left.filter (fun a => decide (key a = k)) =
          right.filter fun a => decide (key a = k) := by
        have both := same k
        rw [List.filter_cons, List.filter_cons] at both
        split at both
        · exact (List.cons.inj both).2
        · exact both
      refine congrArg (a :: ·) (ih sorted.of_cons sorted'.of_cons tails ?_)
      intro x
      have here := congrArg (x ∈ ·) (tails (key x))
      simpa using here

/-- The sorted list depends only on what the list holds under each key. -/
theorem insertionSort_congr [Std.Total r] [IsTrans α r]
    (antisymm : ∀ a b, r a b → r b a → key a = key b) (reflexive : ∀ a b, key a = key b → r a b)
    {left right : List α} (same : ∀ k, left.filter (fun a => decide (key a = k)) =
      right.filter fun a => decide (key a = k)) :
    left.insertionSort r = right.insertionSort r := by
  refine sorted_ext antisymm (List.pairwise_insertionSort r left)
    (List.pairwise_insertionSort r right) fun k => ?_
  have related : ∀ a b, decide (key a = k) = true → decide (key b = k) = true → r a b := by
    intro a b first second
    exact reflexive a b ((of_decide_eq_true first).trans (of_decide_eq_true second).symm)
  rw [filter_insertionSort related, filter_insertionSort related]
  exact same k

section Measure
variable {μ : Type} [LinearOrder μ] {age : α → μ}

end Measure

end Anastom.StableSort
