import Anastom.Core.Json
import Anastom.Data.StableSort

/-! The order of object keys in canonical text is a linear order on strings, so the text
of an object depends only on its members under each key. -/
namespace Anastom.Json

/-- The UTF-16 code units of one character. -/
def charUnits (c : Char) : List Nat :=
  if c.toNat < 0x10000 then [c.toNat]
  else [0xD800 + (c.toNat - 0x10000) / 0x400, 0xDC00 + (c.toNat - 0x10000) % 0x400]

theorem toNat_valid (c : Char) : c.toNat < 0xD800 ∨ (0xDFFF < c.toNat ∧ c.toNat < 0x110000) :=
  c.valid

theorem char_ext {c d : Char} (same : c.toNat = d.toNat) : c = d :=
  Char.ext (UInt32.toNat_inj.mp same)

/-- No character's units begin the units of another. -/
theorem charUnits_prefix {c d : Char} {s t : List Nat} (same : charUnits c ++ s = charUnits d ++ t) :
    c = d ∧ s = t := by
  have left := toNat_valid c
  have right := toNat_valid d
  unfold charUnits at same
  split at same <;> split at same <;>
    simp only [List.cons_append, List.nil_append, List.cons.injEq] at same
  · exact ⟨char_ext same.1, same.2⟩
  · omega
  · omega
  · exact ⟨char_ext (by omega), same.2.2⟩

theorem codeUnits_injective {a b : String} (same : codeUnits a = codeUnits b) : a = b := by
  have units : ∀ cs ds : List Char, cs.flatMap charUnits = ds.flatMap charUnits → cs = ds := by
    intro cs
    induction cs with
    | nil =>
      intro ds same
      cases ds with
      | nil => rfl
      | cons d ds =>
        rw [List.flatMap_nil, List.flatMap_cons] at same
        unfold charUnits at same
        split at same <;> simp at same
    | cons c cs ih =>
      intro ds same
      cases ds with
      | nil =>
        rw [List.flatMap_nil, List.flatMap_cons] at same
        unfold charUnits at same
        split at same <;> simp at same
      | cons d ds =>
        rw [List.flatMap_cons, List.flatMap_cons] at same
        obtain ⟨rfl, rest⟩ := charUnits_prefix same
        rw [ih ds rest]
  exact String.toList_inj.mp (units a.toList b.toList same)

theorem keyLe_iff {a b : String} : keyLe a b = true ↔ codeUnits a ≤ codeUnits b := decide_eq_true_iff

theorem keyLe_antisymm {a b : String} (first : keyLe a b = true) (second : keyLe b a = true) :
    a = b :=
  codeUnits_injective (le_antisymm (keyLe_iff.mp first) (keyLe_iff.mp second))

section
variable {α : Type} (key : α → String)

/-- The order of entries by their keys. -/
def entryLe (a b : α) : Prop := keyLe (key a) (key b) = true

instance : DecidableRel (entryLe key) := fun _ _ => inferInstanceAs (Decidable (_ = true))

instance : Std.Total (entryLe key) where
  total a b := by
    simp only [entryLe, keyLe_iff]
    exact le_total _ _

instance : IsTrans α (entryLe key) where
  trans a b c := by
    simp only [entryLe, keyLe_iff]
    exact le_trans

theorem entryLe_of_key {a b : α} (same : key a = key b) : entryLe key a b :=
  keyLe_iff.mpr (le_of_eq (congrArg codeUnits same))

/-- Entries sorted by key depend only on what stands under each key. -/
theorem sort_congr {left right : List α}
    (same : ∀ k, left.filter (fun a => decide (key a = k)) =
      right.filter fun a => decide (key a = k)) :
    left.insertionSort (entryLe key) = right.insertionSort (entryLe key) := by
  have antisymm (a b : α) (first : entryLe key a b) (second : entryLe key b a) : key a = key b :=
    keyLe_antisymm first second
  exact StableSort.insertionSort_congr antisymm (fun _ _ => entryLe_of_key key) same

end

theorem sortFields_congr {left right : List (String × List Char)}
    (same : ∀ k, left.filter (fun entry => decide (entry.1 = k)) =
      right.filter fun entry => decide (entry.1 = k)) : sortFields left = sortFields right :=
  sort_congr Prod.fst same

theorem fieldTexts_map : ∀ fields : List (String × JsonValue),
    fieldTexts fields = fields.map fun entry => (entry.1, canonicalChars entry.2)
  | [] => rfl
  | (key, value) :: rest => by rw [fieldTexts, fieldTexts_map rest, List.map_cons]

/-- An object's text depends only on the texts of its members under each key. -/
theorem canonicalChars_object_congr {fields others : List (String × JsonValue)}
    (same : ∀ k, (fieldTexts fields).filter (fun entry => decide (entry.1 = k)) =
      (fieldTexts others).filter fun entry => decide (entry.1 = k)) :
    canonicalChars (.object fields) = canonicalChars (.object others) := by
  rw [canonicalChars, canonicalChars, sortFields_congr same]

end Anastom.Json
