import Mathlib.Algebra.BigOperators.Group.List.Basic
import Mathlib.Algebra.Ring.Nat
import Mathlib.Data.List.Perm.Basic
import Mathlib.Data.Nat.Find

/-! Running sums that are dropped when they exceed a limit, and start again with the next
value. Such a sum may depend on the order of its values even where each value fits. -/
namespace Anastom.Restarts
variable {limit q : Nat} {values : List Nat}

/-- One more value; a sum beyond the limit leaves nothing. -/
def add (limit : Nat) (total : Option Nat) (value : Nat) : Option Nat :=
  if total.getD 0 + value ≤ limit then some (total.getD 0 + value) else none

def run (limit : Nat) (values : List Nat) : Option Nat := values.foldl (add limit) none

theorem foldl_add_of_le {total : Option Nat} (nonempty : values ≠ [])
    (fits : total.getD 0 + values.sum ≤ limit) :
    values.foldl (add limit) total = some (total.getD 0 + values.sum) := by
  induction values generalizing total with
  | nil => exact absurd rfl nonempty
  | cons value rest ih =>
    rw [List.sum_cons] at fits
    have head : add limit total value = some (total.getD 0 + value) := if_pos (by omega)
    rw [List.foldl_cons, head, List.sum_cons]
    by_cases last : rest = []
    · rw [last]
      simp
    · rw [ih last (by rw [Option.getD_some]; omega), Option.getD_some, Nat.add_assoc]

/-- Within the limit the sum is exact. -/
theorem run_of_le (nonempty : values ≠ []) (fits : values.sum ≤ limit) :
    run limit values = some values.sum := by
  have whole := @foldl_add_of_le limit values none nonempty (by simpa using fits)
  simpa [run] using whole

theorem foldl_add_le {total : Option Nat} (fits : ∀ n ∈ total, n ≤ limit) :
    ∀ n ∈ values.foldl (add limit) total, n ≤ limit := by
  induction values generalizing total with
  | nil => exact fits
  | cons value rest ih =>
    refine ih fun n sum => ?_
    unfold add at sum
    split at sum
    · rename_i small
      exact Option.some.inj sum ▸ small
    · cases sum

theorem run_le : ∀ n ∈ run limit values, n ≤ limit := foldl_add_le (by simp)

/-- A value that exceeds the limit after a sum within it starts the sum again. -/
theorem run_restart {before rest : List Nat} {value : Nat} (fits : before.sum ≤ limit)
    (single : value ≤ limit) (beyond : limit < before.sum + value) :
    run limit (before ++ value :: rest) = run limit rest := by
  have nonempty : before ≠ [] := by
    rintro rfl
    simp only [List.sum_nil, Nat.zero_add] at beyond
    omega
  have whole := run_of_le nonempty fits
  unfold run at whole ⊢
  rw [List.foldl_append, whole, List.foldl_cons, add, Option.getD_some, if_neg (by omega)]

theorem run_ne_none (positive : values ≠ []) (fits : values.sum ≤ limit) :
    run limit values ≠ none := by
  rw [run_of_le positive fits]
  exact Option.some_ne_none _

/-- Any `q` of the values exceed the limit and any fewer do not. -/
def Uniform (limit q : Nat) (values : List Nat) : Prop :=
  ∀ order : List Nat, order.Perm values →
    (order.take (q - 1)).sum ≤ limit ∧ (q ≤ values.length → limit < (order.take q).sum)

/-- What swapping two neighbours keeps, reordering keeps. -/
theorem perm_swaps {P : List Nat → Prop} {left right : List Nat}
    (swap : ∀ front a b back, (front ++ a :: b :: back).Perm values →
      P (front ++ a :: b :: back) → P (front ++ b :: a :: back))
    (perm : left.Perm right) (front : List Nat) (inside : (front ++ left).Perm values)
    (holds : P (front ++ left)) : P (front ++ right) := by
  induction perm generalizing front with
  | nil => exact holds
  | @cons a l₁ l₂ _ ih =>
    have shifted := ih (front ++ [a]) (by simpa using inside) (by simpa using holds)
    simpa using shifted
  | swap a b l => exact swap front b a l inside holds
  | trans first _ ih₁ ih₂ =>
    exact ih₂ front (((first.append_left front).symm).trans inside) (ih₁ front inside holds)

theorem take_sum_swap {front back : List Nat} {a b : Nat} (other : q ≠ front.length + 1) :
    ((front ++ a :: b :: back).take q).sum = ((front ++ b :: a :: back).take q).sum := by
  rw [List.take_append, List.take_append, List.sum_append, List.sum_append]
  congr 1
  rcases Nat.lt_or_ge (q - front.length) 2 with small | large
  · have none : q - front.length = 0 := by omega
    rw [none, List.take_zero, List.take_zero]
  · obtain ⟨n, eq⟩ := Nat.exists_eq_add_of_le large
    rw [eq, Nat.add_comm 2 n]
    simp only [List.take_succ_cons, List.sum_cons]
    omega

/-- A sum that ends dropped in every order has one length at which it is dropped: were a
neighbour of the dropping value harmless in its place, it could be kept for the end. -/
theorem uniform_of_dropped (fits : ∀ v ∈ values, v ≤ limit)
    (dropped : ∀ order : List Nat, order.Perm values → run limit order = none)
    (least : ∀ order : List Nat, order.Perm values → (order.take (q - 1)).sum ≤ limit)
    {first : List Nat} (perm : first.Perm values)
    (beyond : limit < (first.take q).sum) : Uniform limit q values := by
  refine fun order same => ⟨least order same, fun _ => ?_⟩
  refine perm_swaps (P := fun order => limit < (order.take q).sum) ?_ (perm.trans same.symm) []
    perm beyond
  intro front a b back inside exceeds
  by_cases here : q = front.length + 1
  · by_contra harmless
    have front_fits : front.sum ≤ limit := by
      have bound := least _ inside
      rwa [here, Nat.add_sub_cancel, List.take_left'] at bound
      rfl
    have taken (x y : Nat) : ((front ++ x :: y :: back).take q).sum = front.sum + x := by
      have split : (front ++ x :: y :: back).take q = front ++ [x] := by
        rw [here, List.take_length_add_append]
        rfl
      rw [split, List.sum_append, List.sum_singleton]
    rw [taken] at exceeds harmless
    have single {v : Nat} (member : v ∈ front ++ a :: b :: back) : v ≤ limit :=
      fits v (inside.subset member)
    have a_fits := single (List.mem_append_right _ List.mem_cons_self)
    have b_fits := single (List.mem_append_right _ (List.mem_cons_of_mem _ List.mem_cons_self))
    have rest : run limit back = none := by
      have swapped : (front ++ b :: a :: back).Perm values :=
        ((List.Perm.swap a b back).append_left front).trans inside
      have whole := dropped _ swapped
      rw [show front ++ b :: a :: back = (front ++ [b]) ++ a :: back by simp,
        run_restart (by rw [List.sum_append, List.sum_singleton]; omega) a_fits
          (by rw [List.sum_append, List.sum_singleton]; omega)] at whole
      exact whole
    have last : (front ++ a :: (back ++ [b])).Perm values := by
      refine List.Perm.trans ?_ inside
      exact ((List.perm_append_singleton b back).cons a).append_left front
    have whole := dropped _ last
    rw [run_restart front_fits a_fits exceeds, run, List.foldl_append, ← run, rest,
      List.foldl_cons, List.foldl_nil, add, Option.getD_none, Nat.zero_add, if_pos b_fits] at whole
    cases whole
  · rw [← take_sum_swap here]
    exact exceeds

theorem Uniform.perm {other : List Nat} (uniform : Uniform limit q values)
    (perm : other.Perm values) : Uniform limit q other := fun order same => by
  have here := uniform order (same.trans perm)
  rwa [← perm.length_eq] at here

theorem Uniform.drop (uniform : Uniform limit q values) : Uniform limit q (values.drop q) := by
  intro order same
  have whole : (order ++ values.take q).Perm values := by
    refine ((same.append_right _).trans List.perm_append_comm).trans ?_
    rw [List.take_append_drop]
  obtain ⟨fewer, exactly⟩ := uniform _ whole
  refine ⟨?_, fun long => ?_⟩
  · rw [List.take_append, List.sum_append] at fewer
    omega
  · have enough : q ≤ order.length := by rwa [same.length_eq]
    have inside : q ≤ values.length := by
      rw [List.length_drop] at long
      omega
    have beyond := exactly inside
    rwa [List.take_append_of_le_length enough] at beyond

/-- Each full group of a uniform list is dropped. -/
theorem Uniform.run_drop (uniform : Uniform limit q values) (positive : 0 < q)
    (fits : ∀ v ∈ values, v ≤ limit) (long : q ≤ values.length) :
    run limit values = run limit (values.drop q) := by
  obtain ⟨fewer, exactly⟩ := uniform values (.refl _)
  have inside : q - 1 < values.length := by omega
  have split : values = values.take (q - 1) ++ values[q - 1] :: values.drop q := by
    conv_lhs => rw [← List.take_append_drop (q - 1) values, List.drop_eq_getElem_cons inside]
    rw [Nat.sub_add_cancel positive]
  have beyond := exactly long
  rw [show q = q - 1 + 1 by omega, List.take_succ_eq_append_getElem inside, List.sum_append,
    List.sum_singleton] at beyond
  conv_lhs => rw [split]
  exact run_restart fewer (fits _ (List.getElem_mem inside)) beyond

theorem Uniform.run_eq_none (uniform : Uniform limit q values) (positive : 0 < q)
    (fits : ∀ v ∈ values, v ≤ limit) : run limit values = none ↔ q ∣ values.length := by
  generalize size : values.length = n
  induction n using Nat.strong_induction_on generalizing values with
  | _ n ih =>
    rcases Nat.lt_or_ge values.length q with short | long
    · by_cases empty : values = []
      · rw [← size, empty]
        simp [run]
      · have whole := (uniform values (.refl _)).1
        rw [List.take_of_length_le (by omega)] at whole
        have nonempty := List.length_pos_of_ne_nil empty
        refine iff_of_false (run_ne_none empty whole) fun divides => ?_
        have := Nat.le_of_dvd (by omega) divides
        omega
    · have smaller : (values.drop q).length = n - q := by rw [List.length_drop, size]
      have rest := ih (n - q) (by omega) uniform.drop
        (fun v member => fits v (List.mem_of_mem_drop member)) smaller
      rw [uniform.run_drop positive fits long, rest, ← Nat.dvd_add_self_right,
        Nat.sub_add_cancel (by omega)]

/-- When a sum ends dropped in every order of its values. -/
theorem dropped_iff (fits : ∀ v ∈ values, v ≤ limit) :
    (∀ order : List Nat, order.Perm values → run limit order = none) ↔
      ∃ q, 0 < q ∧ q ∣ values.length ∧ Uniform limit q values := by
  constructor
  · intro dropped
    by_cases empty : values = []
    · refine ⟨1, Nat.one_pos, by simp [empty], fun order same => ?_⟩
      rw [empty] at same
      rw [same.eq_nil, empty]
      simp
    have exceeding : ∃ q, ∃ order : List Nat, order.Perm values ∧ limit < (order.take q).sum := by
      refine ⟨values.length, values, .refl _, ?_⟩
      rw [List.take_length]
      by_contra within
      exact run_ne_none empty (Nat.le_of_not_lt within) (dropped values (.refl _))
    classical
    obtain ⟨first, perm, beyond⟩ := Nat.find_spec exceeding
    have positive : 0 < Nat.find exceeding := by
      by_contra zero
      rw [Nat.eq_zero_of_not_pos zero, List.take_zero, List.sum_nil] at beyond
      omega
    have least : ∀ order : List Nat, order.Perm values →
        (order.take (Nat.find exceeding - 1)).sum ≤ limit := by
      intro order same
      by_contra more
      exact @Nat.find_min _ _ exceeding (Nat.find exceeding - 1) (by omega)
        ⟨order, same, Nat.lt_of_not_le more⟩
    have uniform := uniform_of_dropped fits dropped least perm beyond
    exact ⟨_, positive, (uniform.run_eq_none positive fits).mp (dropped values (.refl _)), uniform⟩
  · rintro ⟨q, positive, divides, uniform⟩ order same
    refine ((uniform.perm same).run_eq_none positive ?_).mpr (same.length_eq ▸ divides)
    exact fun v member => fits v (same.subset member)

end Anastom.Restarts
