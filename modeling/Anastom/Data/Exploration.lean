import Mathlib.Data.List.Basic
import Mathlib.Logic.Relation

/-! The exploration of a graph that collects what its nodes yield. A search may be in the
middle of some nodes; those it has left behind are settled. One that started with nothing
and has left everything behind holds exactly what can be reached from where it started. -/
namespace Anastom

/-- The nodes that a search has entered, and what it has collected. -/
structure Exploration (α β : Type) where
  visited : List α := []
  found : List β := []

namespace Exploration
variable {α β : Type} {next : α → α → Prop} {yields : α → β → Prop} {start : α → Prop}
  {state before after : Exploration α β} {a b : α}

/-- All that a node leads to was entered, and all that it yields was collected. -/
structure Settled (next : α → α → Prop) (yields : α → β → Prop) (state : Exploration α β) (a : α) :
    Prop where
  next : ∀ b, next a b → b ∈ state.visited
  yields : ∀ result, yields a result → result ∈ state.found

/-- Nothing is forgotten, and the nodes that were entered in between are settled. -/
structure Explores (next : α → α → Prop) (yields : α → β → Prop) (before after : Exploration α β) :
    Prop where
  visited : before.visited ⊆ after.visited
  found : before.found ⊆ after.found
  settled : ∀ a ∈ after.visited, a ∈ before.visited ∨ Settled next yields after a

/-- Nothing is collected but what can be reached. -/
structure Sound (next : α → α → Prop) (yields : α → β → Prop) (start : α → Prop)
    (state : Exploration α β) : Prop where
  visited : ∀ a ∈ state.visited, ∃ first, start first ∧ Relation.ReflTransGen next first a
  found : ∀ result ∈ state.found, ∃ first a, start first ∧ Relation.ReflTransGen next first a ∧
    yields a result

theorem Settled.later (settled : Settled next yields before a)
    (explores : Explores next yields before after) : Settled next yields after a where
  next b leads := explores.visited (settled.next b leads)
  yields result yielded := explores.found (settled.yields result yielded)

theorem Explores.refl (state : Exploration α β) : Explores next yields state state where
  visited := List.Subset.refl _
  found := List.Subset.refl _
  settled _ entered := .inl entered

theorem Explores.trans {middle : Exploration α β} (one : Explores next yields before middle)
    (two : Explores next yields middle after) : Explores next yields before after where
  visited := List.Subset.trans one.visited two.visited
  found := List.Subset.trans one.found two.found
  settled a entered := by
    rcases two.settled a entered with earlier | settled
    · exact (one.settled a earlier).imp_right fun settled => settled.later two
    · exact .inr settled

/-- A search that collects more. -/
theorem explores_found {found : List β} (grows : state.found ⊆ found) :
    Explores next yields state { state with found } where
  visited := List.Subset.refl _
  found := grows
  settled _ entered := .inl entered

/-- A node that is entered, explored and left settled. -/
theorem Explores.leave (explores : Explores next yields
      { before with visited := before.visited ++ [a] } after)
    (settled : Settled next yields after a) : Explores next yields before after where
  visited := List.Subset.trans (List.subset_append_left _ _) explores.visited
  found := explores.found
  settled other entered := by
    rcases explores.settled other entered with earlier | done
    · rcases List.mem_append.mp earlier with old | new
      · exact .inl old
      · rw [List.mem_singleton.mp new]
        exact .inr settled
    · exact .inr done

theorem Explores.reaches (explores : Explores next yields {} after) {first : α}
    (entered : first ∈ after.visited) (path : Relation.ReflTransGen next first a) :
    a ∈ after.visited := by
  induction path with
  | refl => exact entered
  | tail _ leads ih =>
    have settled := (explores.settled _ ih).resolve_left List.not_mem_nil
    exact settled.next _ leads

end Exploration
end Anastom
