import Mathlib.Data.List.Basic

/-! Absolute POSIX paths by the names on them. Rendering a list of plain names and
resolving the text again gives the names back. -/
namespace Anastom.PosixPath

/-- The text of an absolute path. -/
def render (names : List String) : String :=
  String.ofList ('/' :: ['/'].intercalate (names.map String.toList))

/-- Walk from a directory along the names of a path. -/
def walk : List String → List String → List String
  | directory, [] => directory
  | directory, name :: rest =>
    if name == "" || name == "." then walk directory rest
    else if name == ".." then walk directory.dropLast rest
    else walk (directory ++ [name]) rest

/-- `path.resolve(base, path)`, from an absolute base. -/
def resolve (base : List String) (path : String) : List String :=
  walk (if path.toList.head? = some '/' then [] else base)
    ((path.toList.splitOn '/').map String.ofList)

/-- A name that a path can hold as one component and that walks nowhere else. -/
structure Plain (name : String) : Prop where
  nonempty : name ≠ ""
  current : name ≠ "."
  parent : name ≠ ".."
  slash : '/' ∉ name.toList

theorem walk_plain {names : List String} (plain : ∀ name ∈ names, Plain name)
    (directory : List String) : walk directory names = directory ++ names := by
  induction names generalizing directory with
  | nil => simp [walk]
  | cons name rest ih =>
    have here := plain name List.mem_cons_self
    have later := ih (fun other member => plain other (List.mem_cons_of_mem _ member))
      (directory ++ [name])
    simp only [walk, beq_iff_eq, Bool.or_eq_true, here.nonempty, here.current, here.parent,
      or_self, if_false]
    rw [later, List.append_assoc, List.singleton_append]

theorem resolve_name {name : String} (plain : Plain name) (base : List String) :
    resolve base name = base ++ [name] := by
  have relative : name.toList.head? ≠ some '/' := fun head =>
    plain.slash (List.mem_of_mem_head? head)
  have alone : name.toList.splitOn '/' = [name.toList] := by
    have split : (['/'].intercalate [name.toList]).splitOn '/' = [name.toList] :=
      List.splitOn_intercalate '/' (by simpa using plain.slash) (by simp)
    simpa using split
  unfold resolve
  rw [if_neg relative, alone]
  simp only [List.map_cons, List.map_nil, String.ofList_toList]
  exact walk_plain (by simpa using plain) base

theorem resolve_render {names : List String} (plain : ∀ name ∈ names, Plain name)
    (base : List String) : resolve base (render names) = names := by
  have split : (render names).toList.splitOn '/' = if names = [] then [[], []]
      else [] :: names.map String.toList := by
    unfold render
    rw [String.toList_ofList]
    cases names with
    | nil => rfl
    | cons name rest =>
      rw [if_neg (by simp)]
      have slashes : ∀ text ∈ [] :: (name :: rest).map String.toList, '/' ∉ text := by
        simpa using ⟨(plain name List.mem_cons_self).slash, fun other member =>
          (plain other (List.mem_cons_of_mem _ member)).slash⟩
      have whole := List.splitOn_intercalate '/' slashes (by simp)
      simpa [List.intercalate_cons_cons] using whole
  have absolute : (render names).toList.head? = some '/' := by
    simp [render]
  unfold resolve
  rw [if_pos absolute, split]
  cases names with
  | nil => simp [walk]
  | cons name rest =>
    have texts : ((name :: rest).map String.toList).map String.ofList = name :: rest := by
      simp [Function.comp_def]
    rw [if_neg (by simp), List.map_cons, texts]
    show walk [] ("" :: name :: rest) = name :: rest
    have first : walk [] ("" :: name :: rest) = walk [] (name :: rest) := rfl
    rw [first, walk_plain plain, List.nil_append]

end Anastom.PosixPath
