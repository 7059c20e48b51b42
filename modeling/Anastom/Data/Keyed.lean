import Mathlib.Data.List.Nodup
import Mathlib.Data.List.Basic

/-! Tables as lists of entries that carry their own key. Lookup takes the first
entry of a key; an update rewrites the entries of a key and keeps the order. -/
namespace Anastom

class Keyed (α : Type u) (κ : outParam (Type v)) where
  key : α → κ

namespace Keyed
variable {α : Type u} {κ : Type v} [Keyed α κ] [DecidableEq κ]

def find (table : List α) (k : κ) : Option α := table.find? fun a => decide (key a = k)

def modify (table : List α) (k : κ) (f : α → α) : List α :=
  table.map fun a => if key a = k then f a else a

def keys (table : List α) : List κ := table.map key

def Distinct (table : List α) : Prop := (keys table).Nodup

omit [DecidableEq κ] in
theorem Distinct.tail {a : α} {table : List α} (distinct : Distinct (a :: table)) :
    Distinct table := (List.nodup_cons.mp distinct).2

omit [DecidableEq κ] in
theorem Distinct.head_absent {a : α} {table : List α} (distinct : Distinct (a :: table)) :
    ∀ b ∈ table, key b ≠ key a := by
  intro b member same
  exact (List.nodup_cons.mp distinct).1 (same ▸ List.mem_map_of_mem (f := key) member)

theorem find_mem {table : List α} {k : κ} {a : α} (found : find table k = some a) : a ∈ table :=
  List.mem_of_find?_eq_some found

theorem find_key {table : List α} {k : κ} {a : α} (found : find table k = some a) : key a = k := by
  simpa using List.find?_some found

theorem find_none {table : List α} {k : κ} : find table k = none ↔ ∀ a ∈ table, key a ≠ k := by
  simp [find]

theorem find_isSome {table : List α} {k : κ} : (find table k).isSome ↔ k ∈ keys table := by
  simp [find, keys, List.find?_isSome]

theorem find_cons (a : α) (table : List α) (k : κ) :
    find (a :: table) k = if key a = k then some a else find table k := by
  by_cases same : key a = k <;> simp [find, same]

theorem find_of_mem {table : List α} {a : α} (distinct : Distinct table) (member : a ∈ table) :
    find table (key a) = some a := by
  induction table with
  | nil => cases member
  | cons b rest ih =>
    rw [find_cons]
    rcases List.mem_cons.mp member with rfl | inRest
    · simp
    · have different := distinct.head_absent a inRest
      rw [if_neg (Ne.symm different)]
      exact ih distinct.tail inRest

theorem find_iff {table : List α} {k : κ} {a : α} (distinct : Distinct table) :
    find table k = some a ↔ a ∈ table ∧ key a = k := by
  constructor
  · exact fun found => ⟨find_mem found, find_key found⟩
  · rintro ⟨member, rfl⟩
    exact find_of_mem distinct member

/-- Lookup by a distinct key does not depend on the order of the table. -/
theorem find_perm {table other : List α} (perm : table.Perm other) (distinct : Distinct table)
    (k : κ) : find table k = find other k := by
  have distinct' : Distinct other := (perm.map key).nodup_iff.mp distinct
  refine Option.ext fun a => ?_
  rw [find_iff distinct, find_iff distinct', perm.mem_iff]

theorem filter_key {table : List α} (distinct : Distinct table) (k : κ) :
    table.filter (fun a => decide (key a = k)) = (find table k).toList := by
  induction table with
  | nil => rfl
  | cons a rest ih =>
    rw [List.filter_cons, find_cons, ih distinct.tail]
    by_cases same : key a = k
    · have absent : find rest k = none := find_none.mpr fun b member =>
        same ▸ distinct.head_absent b member
      simp [same, absent]
    · simp [same]

theorem eq_of_key {table : List α} {a b : α} (distinct : Distinct table) (left : a ∈ table)
    (right : b ∈ table) (same : key a = key b) : a = b := by
  have found := find_of_mem distinct left
  rw [same, find_of_mem distinct right] at found
  exact (Option.some.inj found).symm

theorem mem_modify {table : List α} {k : κ} {f : α → α} {b : α} :
    b ∈ modify table k f ↔
      ∃ a ∈ table, (key a = k ∧ b = f a) ∨ (key a ≠ k ∧ b = a) := by
  simp only [modify, List.mem_map]
  constructor
  · rintro ⟨a, member, rfl⟩
    by_cases same : key a = k
    · exact ⟨a, member, .inl ⟨same, by simp [same]⟩⟩
    · exact ⟨a, member, .inr ⟨same, by simp [same]⟩⟩
  · rintro ⟨a, member, ⟨same, rfl⟩ | ⟨different, rfl⟩⟩
    · exact ⟨a, member, by simp [same]⟩
    · exact ⟨b, member, by simp [different]⟩

theorem keys_modify {table : List α} {k : κ} {f : α → α}
    (keeps : ∀ a, key a = k → key (f a) = k) : keys (modify table k f) = keys table := by
  simp only [keys, modify, List.map_map]
  apply List.map_congr_left
  intro a _
  by_cases same : key a = k
  · simp [same, keeps a same]
  · simp [same]

theorem Distinct.modify {table : List α} {k : κ} {f : α → α} (distinct : Distinct table)
    (keeps : ∀ a, key a = k → key (f a) = k) : Distinct (modify table k f) := by
  unfold Distinct
  rw [keys_modify keeps]
  exact distinct

theorem find_modify {table : List α} {k l : κ} {f : α → α}
    (keeps : ∀ a, key a = k → key (f a) = k) :
    find (modify table k f) l = if l = k then (find table l).map f else find table l := by
  induction table with
  | nil => simp [find, modify]
  | cons a rest ih =>
    have step : modify (a :: rest) k f = (if key a = k then f a else a) :: modify rest k f := rfl
    rw [step, find_cons, find_cons, ih]
    by_cases same : key a = k
    · by_cases wanted : k = l
      · subst wanted; simp [same, keeps a same]
      · have other : l ≠ k := fun h => wanted h.symm
        simp [same, keeps a same, wanted, other]
    · by_cases wanted : key a = l
      · have other : l ≠ k := fun h => same (wanted.trans h)
        simp [wanted, other]
      · by_cases target : l = k <;> simp [same, wanted, target]

theorem modify_modify {table : List α} {k : κ} {f g : α → α}
    (keeps : ∀ a, key a = k → key (f a) = k) :
    modify (modify table k f) k g = modify table k (g ∘ f) := by
  simp only [modify, List.map_map]
  apply List.map_congr_left
  intro a _
  by_cases same : key a = k
  · simp [same, keeps a same]
  · simp [same]

theorem find_append {table rest : List α} {k : κ} :
    find (table ++ rest) k = (find table k).or (find rest k) := by
  simp [find, List.find?_append]

omit [DecidableEq κ] in
theorem Distinct.append_one {table : List α} {a : α} (distinct : Distinct table)
    (fresh : key a ∉ keys table) : Distinct (table ++ [a]) := by
  unfold Distinct keys at *
  rw [List.map_append]
  refine List.nodup_append.mpr ⟨distinct, List.nodup_singleton _, ?_⟩
  intro x inTable y inRest
  rw [List.map_singleton, List.mem_singleton] at inRest
  subst inRest
  intro same
  exact fresh (same ▸ inTable)

end Keyed
end Anastom
