import Mathlib.Algebra.Ring.Nat
import Mathlib.Data.Nat.Log

/-! Sums of natural numbers in double arithmetic: exact up to 2^53, rounded to 53
significant bits above, and never rounded across that bound. -/
namespace Anastom.Doubles

/-- The double nearest to a natural number, ties to even. -/
def round (n : Nat) : Nat :=
  if n < 2 ^ 53 then n
  else
    let ulp := 2 ^ (Nat.log2 n - 52)
    let quotient := n / ulp
    let rest := n % ulp
    if 2 * rest < ulp ∨ (2 * rest = ulp ∧ quotient % 2 = 0) then quotient * ulp
    else (quotient + 1) * ulp

/-- `a + b` on numbers that hold naturals. -/
def add (a b : Nat) : Nat := round (a + b)

theorem round_exact {n : Nat} (small : n < 2 ^ 53) : round n = n := if_pos small

theorem round_large {n : Nat} (large : 2 ^ 53 ≤ n) : 2 ^ 53 ≤ round n := by
  have nonzero : n ≠ 0 := by
    rintro rfl
    exact absurd large (by decide)
  have high : 53 ≤ Nat.log2 n := (Nat.le_log2 nonzero).mpr large
  have below : 2 ^ Nat.log2 n ≤ n := Nat.log2_self_le nonzero
  have split : 2 ^ Nat.log2 n = 2 ^ 52 * 2 ^ (Nat.log2 n - 52) := by
    rw [← Nat.pow_add]
    congr 1
    omega
  have quotient : 2 ^ 52 ≤ n / 2 ^ (Nat.log2 n - 52) := by
    rw [Nat.le_div_iff_mul_le (Nat.pow_pos (by decide)), ← split]
    exact below
  have kept : 2 ^ 53 ≤ n / 2 ^ (Nat.log2 n - 52) * 2 ^ (Nat.log2 n - 52) :=
    calc 2 ^ 53 ≤ 2 ^ Nat.log2 n := Nat.pow_le_pow_right (by decide) high
      _ = 2 ^ 52 * 2 ^ (Nat.log2 n - 52) := split
      _ ≤ n / 2 ^ (Nat.log2 n - 52) * 2 ^ (Nat.log2 n - 52) := Nat.mul_le_mul_right _ quotient
  rw [round, if_neg (Nat.not_lt.mpr large)]
  simp only
  split
  · exact kept
  · exact Nat.le_trans kept (Nat.mul_le_mul_right _ (Nat.le_succ _))

/-- A sum stays below 2^53 exactly when it is exact. -/
theorem add_lt_iff {a b : Nat} : add a b < 2 ^ 53 ↔ a + b < 2 ^ 53 := by
  by_cases small : a + b < 2 ^ 53
  · rw [add, round_exact small]
  · have large := round_large (Nat.le_of_not_lt small)
    exact iff_of_false (Nat.not_lt.mpr large) small

theorem add_exact {a b : Nat} (small : a + b < 2 ^ 53) : add a b = a + b := round_exact small

theorem add_positive {a b : Nat} (positive : 1 ≤ a + b) : 1 ≤ add a b := by
  by_cases small : a + b < 2 ^ 53
  · rw [add_exact small]
    exact positive
  · have large := round_large (Nat.le_of_not_lt small)
    exact Nat.le_trans (by decide) large

/-- A sum of several numbers stays below 2^53 exactly when it is exact. -/
theorem foldl_add_lt_iff {parts : List Nat} {sum : Nat} :
    parts.foldl add sum < 2 ^ 53 ↔ sum + parts.sum < 2 ^ 53 := by
  induction parts generalizing sum with
  | nil => rw [List.foldl_nil, List.sum_nil, Nat.add_zero]
  | cons part rest ih =>
    rw [List.foldl_cons, ih, List.sum_cons]
    by_cases small : sum + part < 2 ^ 53
    · rw [add_exact small, Nat.add_assoc]
    · have large : ¬ add sum part < 2 ^ 53 := fun less => small (add_lt_iff.mp less)
      constructor <;> intro less <;> omega

theorem foldl_add_exact {parts : List Nat} {sum : Nat} (small : sum + parts.sum < 2 ^ 53) :
    parts.foldl add sum = sum + parts.sum := by
  induction parts generalizing sum with
  | nil => rw [List.foldl_nil, List.sum_nil, Nat.add_zero]
  | cons part rest ih =>
    rw [List.sum_cons] at small
    rw [List.foldl_cons, List.sum_cons, add_exact (by omega), ih (by omega), Nat.add_assoc]

end Anastom.Doubles
