import Anastom.Core.JsonText
import Anastom.Core.KeyOrder
import Anastom.Core.Text
import Anastom.Data.ByteSize
import Mathlib.Algebra.Order.BigOperators.Group.List
import Mathlib.Algebra.Order.Group.Nat

/-! The byte length of canonical text, value by value. Sorting the keys of an object moves
its members and keeps their bytes. -/
namespace Anastom.Json
open ByteSize

/-- `Buffer.byteLength(canonicalJson(value))` -/
def byteLength (value : JsonValue) : Nat := (canonicalJson value).utf8ByteSize

theorem byteLength_chars (value : JsonValue) : byteLength value = chars (canonicalChars value) :=
  size_ofList _

theorem chars_commaSeparated (texts : List (List Char)) :
    chars (commaSeparated texts) = (texts.map chars).sum + (texts.length - 1) := by
  induction texts with
  | nil => rfl
  | cons text rest ih =>
    cases rest with
    | nil => simp [commaSeparated]
    | cons next rest =>
      have comma : Char.utf8Size ',' = 1 := rfl
      simp only [commaSeparated, chars_append, chars_cons, ih, List.map_cons, List.sum_cons,
        List.length_cons, comma]
      omega

theorem itemTexts_map : ∀ items : List JsonValue, itemTexts items = items.map canonicalChars
  | [] => rfl
  | item :: rest => by rw [itemTexts, itemTexts_map rest, List.map_cons]

theorem byteLength_array (items : List JsonValue) :
    byteLength (.array items) = 2 + (items.map byteLength).sum + (items.length - 1) := by
  have opening : Char.utf8Size '[' = 1 := rfl
  have closing : Char.utf8Size ']' = 1 := rfl
  have lengths : items.map (chars ∘ canonicalChars) = items.map byteLength :=
    List.map_congr_left fun item _ => (byteLength_chars item).symm
  rw [byteLength_chars, canonicalChars, itemTexts_map]
  simp only [List.cons_append, chars_cons, chars_append, chars_commaSeparated, List.map_map,
    List.length_map, lengths, opening, closing, chars_nil]
  omega

/-- The bytes of a member of an object: its key, the colon and its value. -/
def memberLength (entry : String × JsonValue) : Nat :=
  byteLength (.string entry.1) + 1 + byteLength entry.2

theorem byteLength_object (fields : List (String × JsonValue)) :
    byteLength (.object fields) = 2 + (fields.map memberLength).sum + (fields.length - 1) := by
  have opening : Char.utf8Size '{' = 1 := rfl
  have closing : Char.utf8Size '}' = 1 := rfl
  have colon : Char.utf8Size ':' = 1 := rfl
  let size (entry : String × List Char) : Nat := chars (stringChars entry.1 ++ ':' :: entry.2)
  have sorted : ((sortFields (fieldTexts fields)).map size).sum = (fields.map memberLength).sum := by
    have moved : (sortFields (fieldTexts fields)).Perm (fieldTexts fields) :=
      List.perm_insertionSort _ _
    rw [(moved.map size).sum_eq, fieldTexts_map, List.map_map]
    congr 1
    refine List.map_congr_left fun entry _ => ?_
    simp only [size, Function.comp_apply, memberLength, byteLength_chars, canonicalChars,
      chars_append, chars_cons, colon]
    omega
  have count : (sortFields (fieldTexts fields)).length = fields.length := by
    rw [sortFields, List.length_insertionSort, fieldTexts_map, List.length_map]
  rw [byteLength_chars, canonicalChars]
  simp only [List.cons_append, chars_cons, chars_append, chars_commaSeparated, List.map_map,
    List.length_map, count, opening, closing, chars_nil]
  have texts : (chars ∘ fun entry : String × List Char =>
      stringChars entry.1 ++ ':' :: entry.2) = size := rfl
  rw [texts, sorted]
  omega

/-- An object of short members is short. -/
theorem byteLength_object_le {fields : List (String × JsonValue)} {n : Nat}
    (short : ∀ entry ∈ fields, memberLength entry ≤ n) :
    byteLength (.object fields) ≤ 2 + fields.length * (n + 1) := by
  have sum : (fields.map memberLength).sum ≤ fields.length * n := by
    have each := List.sum_le_card_nsmul (fields.map memberLength) n (List.forall_mem_map.mpr short)
    rwa [List.length_map, nsmul_eq_mul, Nat.cast_id] at each
  rw [byteLength_object, Nat.mul_succ]
  omega

/-- Fewer items make a shorter array. -/
theorem byteLength_sublist {items others : List JsonValue} (fewer : items.Sublist others) :
    byteLength (.array items) ≤ byteLength (.array others) := by
  have sums := (fewer.map byteLength).sum_le_sum fun _ _ => Nat.zero_le _
  have lengths := fewer.length_le
  rw [byteLength_array, byteLength_array]
  omega

/-- Characters that stand in a JSON string as one byte each. -/
def unescaped (c : Char) : Bool :=
  c != '"' && c != '\\' && decide (32 ≤ c.val ∧ c.val ≤ 127)

theorem escapeChar_unescaped {c : Char} (plain : unescaped c = true) : escapeChar c = [c] := by
  simp only [unescaped, Bool.and_eq_true, bne_iff_ne, decide_eq_true_eq] at plain
  obtain ⟨⟨quote, backslash⟩, printable, _⟩ := plain
  unfold escapeChar
  split
  · exact absurd rfl quote
  · exact absurd rfl backslash
  · exact absurd printable (by decide)
  · exact absurd printable (by decide)
  · exact absurd printable (by decide)
  · have apart (low : UInt32) (control : low < 32) : c.val ≠ low := by
      rintro rfl
      exact absurd control (UInt32.not_lt.mpr printable)
    rw [if_neg (apart 8 (by decide)), if_neg (apart 12 (by decide)),
      if_neg (UInt32.not_lt.mpr printable)]

theorem byteLength_ofList (text : List Char) :
    byteLength (.string (String.ofList text)) = 2 + chars (text.flatMap escapeChar) := by
  have quote : Char.utf8Size '"' = 1 := rfl
  rw [byteLength_chars, canonicalChars, stringChars, String.toList_ofList]
  simp only [List.cons_append, chars_cons, chars_append, quote, chars_nil]
  omega

theorem chars_escapeChar (c : Char) : chars (escapeChar c) ≤ 6 := by
  have digit (n : Nat) (small : n < 16) : (Nat.digitChar n).utf8Size = 1 := by
    have table : ∀ i : Fin 16, (Nat.digitChar i).utf8Size = 1 := by decide
    exact table ⟨n, small⟩
  unfold escapeChar
  split
  · decide
  · decide
  · decide
  · decide
  · decide
  · split
    · decide
    · split
      · decide
      · split
        case isTrue control =>
          have below : c.toNat < 32 := control
          simp only [chars_cons, chars_nil, digit (c.toNat / 16) (by omega),
            digit (c.toNat % 16) (by omega)]
          decide
        case isFalse =>
          have size := c.utf8Size_le_four
          rw [chars_cons, chars_nil]
          omega

/-- An escaped character has at most six bytes. -/
theorem byteLength_ofList_le {text : List Char} {n : Nat} (short : 2 + 6 * text.length ≤ n) :
    byteLength (.string (String.ofList text)) ≤ n := by
  have escaped : chars (text.flatMap escapeChar) ≤ 6 * text.length := by
    clear short
    induction text with
    | nil => exact Nat.le_refl 0
    | cons c rest ih =>
      have one := chars_escapeChar c
      rw [List.flatMap_cons, chars_append, List.length_cons]
      omega
  rw [byteLength_ofList]
  omega

theorem memberLength_ofList_le {key : List Char} {value : JsonValue} {n : Nat}
    (short : 6 * key.length + byteLength value + 3 ≤ n) :
    memberLength (String.ofList key, value) ≤ n := by
  have text : byteLength (.string (String.ofList key)) ≤ 2 + 6 * key.length :=
    byteLength_ofList_le (Nat.le_refl _)
  simp only [memberLength]
  omega

theorem byteLength_unescaped {s : String} (plain : ∀ c ∈ s.toList, unescaped c = true) :
    byteLength (.string s) = 2 + s.toList.length := by
  have quote : Char.utf8Size '"' = 1 := rfl
  have same : s.toList.flatMap escapeChar = s.toList := by
    rw [List.flatMap_congr fun c member => escapeChar_unescaped (plain c member)]
    exact List.flatMap_singleton' _
  have ascii : ∀ c ∈ s.toList, c.val ≤ 127 := by
    intro c member
    have accepted := plain c member
    simp only [unescaped, Bool.and_eq_true, decide_eq_true_eq] at accepted
    exact accepted.2.2
  rw [byteLength_chars, canonicalChars, stringChars, same]
  simp only [List.cons_append, chars_cons, chars_append, chars_ascii ascii, quote, chars_nil]
  omega

theorem isNumberChar_ascii {c : Char} (valid : isNumberChar c = true) : c.val ≤ 127 := by
  simp only [isNumberChar, Char.isDigit, Bool.or_eq_true, Bool.and_eq_true, decide_eq_true_eq,
    beq_iff_eq] at valid
  rcases valid with ((((digit | rfl) | rfl) | rfl) | rfl)
  · exact UInt32.le_trans digit.2 (by decide)
  · decide
  · decide
  · decide
  · decide

theorem byteLength_number (value : JsonNumber) :
    byteLength (.number value) = (numberChars value).length := by
  rw [byteLength_chars, canonicalChars,
    chars_ascii fun c member => isNumberChar_ascii (numberChars_chars value c member)]

/-- Naturals print as many bytes as they have digits. -/
theorem byteLength_nat {n k : Nat} (small : n < 10 ^ k) (positive : 0 < k) (plain : k ≤ 21) :
    byteLength (JsonValue.nat n) ≤ k := by
  rw [JsonValue.nat, byteLength_number]
  by_cases zero : n = 0
  · rw [zero]
    exact positive
  · obtain ⟨digits, exponent, normal, form, nonzero, value⟩ := ofNat_form zero
    rw [← value, ← digits_le_iff nonzero] at small
    rw [form, numberChars_digits nonzero (by omega), List.length_append, List.length_replicate]
    exact small

theorem byteLength_safe {n : Nat} (safe : nonnegative n = true) :
    byteLength (JsonValue.nat n) ≤ 16 := by
  have bound := nonnegative_iff.mp safe
  exact byteLength_nat (Nat.lt_of_le_of_lt bound (by decide)) (by decide) (by decide)

theorem toDigits_length_le {n k : Nat} (small : n < 10 ^ k) (positive : 0 < k) :
    (Nat.toDigits 10 n).length ≤ k :=
  (Nat.length_toDigits_le_iff (by decide) positive).mpr small

/-- The digits and exponents that doubles print with. -/
def Double (value : JsonNumber) : Prop := value.digits < 10 ^ 17 ∧ value.exponent.natAbs ≤ 330

theorem byteLength_double {value : JsonNumber} (double : Double value) :
    byteLength (.number value) ≤ 25 := by
  obtain ⟨significant, scale⟩ := double
  have count := toDigits_length_le significant (by decide)
  have some := Nat.length_toDigits_pos (b := 10) (n := value.digits)
  have sign : (if value.negative then ['-'] else []).length ≤ 1 := by split <;> simp
  have exponents (n : Int) (bound : n.natAbs ≤ 400) : (Nat.toDigits 10 n.toNat).length ≤ 3 :=
    toDigits_length_le (by omega) (by decide)
  rw [byteLength_number]
  simp only [numberChars]
  by_cases zero : value.digits = 0
  · rw [if_pos zero]
    decide
  · rw [if_neg zero, List.length_append]
    refine Nat.le_trans (Nat.add_le_add_right sign _) ?_
    split
    case isTrue plain =>
      simp only [List.length_append, List.length_replicate]
      omega
    case isFalse =>
      split
      case isTrue point =>
        simp only [List.length_append, List.length_cons, List.length_take, List.length_drop]
        omega
      case isFalse =>
        split
        case isTrue fraction =>
          simp only [List.cons_append, List.length_append, List.length_cons, List.length_replicate]
          omega
        case isFalse =>
          have tail : (if (Nat.toDigits 10 value.digits).length = 1 then []
              else '.' :: (Nat.toDigits 10 value.digits).drop 1).length ≤ 17 := by
            split
            · simp
            · simp only [List.length_cons, List.length_drop]
              omega
          have power := exponents ((Nat.toDigits 10 value.digits).length + value.exponent - 1)
            (by omega)
          have root := exponents (1 - ((Nat.toDigits 10 value.digits).length + value.exponent))
            (by omega)
          have scale : (if 0 < (Nat.toDigits 10 value.digits).length + value.exponent then
                '+' :: Nat.toDigits 10 (((Nat.toDigits 10 value.digits).length +
                  value.exponent - 1).toNat)
              else '-' :: Nat.toDigits 10 ((1 - ((Nat.toDigits 10 value.digits).length +
                  value.exponent)).toNat)).length ≤ 4 := by
            split <;> rw [List.length_cons] <;> omega
          simp only [List.length_append, List.length_cons, List.length_take]
          omega

end Anastom.Json

namespace Anastom.Text

theorem hexAny_unescaped {c : Char} (hex : hexAny c = true) : Json.unescaped c = true := by
  simp only [hexAny, hexLower, Char.isDigit, Bool.or_eq_true, Bool.and_eq_true,
    decide_eq_true_eq] at hex
  simp only [Json.unescaped, Bool.and_eq_true, bne_iff_ne, decide_eq_true_eq]
  have range : 48 ≤ c.val ∧ c.val ≤ 102 ∧ c.val ≠ 92 := by
    rcases hex with (digit | lower) | upper
    · exact ⟨digit.1, UInt32.le_trans digit.2 (by decide),
        fun same => absurd (same ▸ digit.2) (by decide)⟩
    · have low : (97 : UInt32) ≤ c.val := lower.1
      have high : c.val ≤ (102 : UInt32) := lower.2
      exact ⟨UInt32.le_trans (by decide) low, high,
        fun same => absurd (same ▸ low) (by decide)⟩
    · have low : (65 : UInt32) ≤ c.val := upper.1
      have high : c.val ≤ (70 : UInt32) := upper.2
      exact ⟨UInt32.le_trans (by decide) low, UInt32.le_trans high (by decide),
        fun same => absurd (same ▸ high) (by decide)⟩
  refine ⟨⟨?_, ?_⟩, UInt32.le_trans (by decide) range.1, UInt32.le_trans range.2.1 (by decide)⟩
  · rintro rfl
    exact absurd range.1 (by decide)
  · rintro rfl
    exact absurd rfl range.2.2

theorem uuid_chars {s : String} (valid : uuid s = true) :
    s.toList.length = 36 ∧ ∀ c ∈ s.toList, Json.unescaped c = true := by
  have joined : ['-'].intercalate (s.toList.splitOn '-') = s.toList := List.intercalate_splitOn _
  unfold uuid at valid
  split at valid
  case h_2 => cases valid
  case h_1 a b c d e parts =>
    rw [parts] at joined
    simp only [Bool.and_eq_true, beq_iff_eq, List.all_eq_true] at valid
    obtain ⟨⟨⟨⟨⟨⟨⟨⟨⟨⟨⟨countA, hexA⟩, countB⟩, hexB⟩, countC⟩, _⟩, hexC⟩, countD⟩, _⟩, hexD⟩, countE⟩,
      hexE⟩ := valid
    have text : s.toList = a ++ '-' :: b ++ '-' :: c ++ '-' :: d ++ '-' :: e := by
      rw [← joined]
      simp [List.intercalate]
    constructor
    · rw [text]
      simp only [List.cons_append, List.append_assoc, List.length_append, List.length_cons,
        countA, countB, countC, countD, countE]
    · intro x member
      rw [text] at member
      simp only [List.cons_append, List.append_assoc, List.mem_append, List.mem_cons] at member
      have dash : Json.unescaped '-' = true := by decide
      rcases member with inA | rfl | inB | rfl | inC | rfl | inD | rfl | inE
      · exact hexAny_unescaped (hexA x inA)
      · exact dash
      · exact hexAny_unescaped (hexB x inB)
      · exact dash
      · exact hexAny_unescaped (hexC x inC)
      · exact dash
      · exact hexAny_unescaped (hexD x inD)
      · exact dash
      · exact hexAny_unescaped (hexE x inE)

end Anastom.Text
