import Mathlib.Algebra.BigOperators.Group.List.Basic
import Mathlib.Algebra.Ring.Nat
import Mathlib.Data.Nat.Cast.Basic

/-! The UTF-8 length of a text from the characters in it. -/
namespace Anastom.ByteSize

/-- The bytes of a sequence of characters. -/
def chars (text : List Char) : Nat := (text.map Char.utf8Size).sum

@[simp] theorem chars_nil : chars [] = 0 := rfl

@[simp] theorem chars_cons (c : Char) (text : List Char) :
    chars (c :: text) = c.utf8Size + chars text := by
  rw [chars, chars, List.map_cons, List.sum_cons]

@[simp] theorem chars_append (first second : List Char) :
    chars (first ++ second) = chars first + chars second := by
  rw [chars, chars, chars, List.map_append, List.sum_append]

theorem size_ofList (text : List Char) : (String.ofList text).utf8ByteSize = chars text := by
  induction text with
  | nil => rfl
  | cons c rest ih =>
    have split : String.ofList (c :: rest) = String.singleton c ++ String.ofList rest := by
      simp
    rw [split, String.utf8ByteSize_append, String.utf8ByteSize_singleton, ih, chars_cons]

theorem size_eq (s : String) : s.utf8ByteSize = chars s.toList := by
  rw [← size_ofList, String.ofList_toList]

/-- Texts of one-byte characters are as long as they have characters. -/
theorem chars_ascii {text : List Char} (ascii : ∀ c ∈ text, c.val ≤ 127) :
    chars text = text.length := by
  have sizes : text.map Char.utf8Size = text.map fun _ => 1 :=
    List.map_congr_left fun c member => Char.utf8Size_eq_one_iff.mpr (ascii c member)
  rw [chars, sizes, List.map_const', List.sum_replicate, nsmul_eq_mul, Nat.mul_one, Nat.cast_id]

theorem size_ascii {s : String} (ascii : ∀ c ∈ s.toList, c.val ≤ 127) :
    s.utf8ByteSize = s.toList.length := by
  rw [size_eq, chars_ascii ascii]

end Anastom.ByteSize
