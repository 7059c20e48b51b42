import Mathlib.Data.List.Dedup
import Mathlib.Data.List.Nodup
import Mathlib.Data.List.Perm.Subperm

/-! Dependency graphs: orders in which everything a node needs is finished before it, and
the depth-first search that finds such an order or reports a cycle. -/
namespace Anastom.Dependencies
variable {κ : Type u} {ι : Type v}

/-- Newest first: what a node needs stands further back. -/
inductive Ordered (needs : κ → List κ) : List κ → Prop where
  | nil : Ordered needs []
  | cons {a : κ} {finished : List κ} (available : ∀ b ∈ needs a, b ∈ finished)
      (rest : Ordered needs finished) : Ordered needs (a :: finished)

namespace Ordered
variable {needs : κ → List κ} {finished : List κ}

/-- Where a property fails, it fails of a node whose needs all have it. -/
theorem first_failing (ordered : Ordered needs finished) {P : κ → Prop} {a : κ}
    (member : a ∈ finished) (fails : ¬ P a) :
    ∃ b ∈ finished, ¬ P b ∧ ∀ c ∈ needs b, P c := by
  induction ordered generalizing a with
  | nil => cases member
  | @cons head rest available _ ih =>
    by_cases earlier : ∃ c ∈ rest, ¬ P c
    · obtain ⟨c, inRest, failing⟩ := earlier
      obtain ⟨b, bMember, holds⟩ := ih inRest failing
      exact ⟨b, List.mem_cons_of_mem _ bMember, holds⟩
    · have all : ∀ c ∈ rest, P c := fun c inRest => by
        by_contra failing
        exact earlier ⟨c, inRest, failing⟩
      rcases List.mem_cons.mp member with rfl | member
      · exact ⟨a, List.mem_cons_self, fails, fun c needed => all c (available c needed)⟩
      · exact absurd (all a member) fails

end Ordered

/-- What a search has reported and finished so far. -/
structure Search (ι : Type v) (κ : Type u) where
  issues : List ι
  visited : List κ

variable {needs : κ → List κ} {nodes path : List κ} {depth : Nat}

/-- Where a search may continue: along a path of the graph that it can still extend. -/
structure Onward (nodes path : List κ) (depth : Nat) : Prop where
  distinct : path.Nodup
  inside : path ⊆ nodes
  room : nodes.length ≤ depth + path.length

/-- What a search without a reported cycle has established. -/
structure Established (needs : κ → List κ) (before after : Search ι κ) (wanted : List κ) : Prop where
  issues : before.issues = []
  keeps : before.visited ⊆ after.visited
  reaches : wanted ⊆ after.visited
  ordered : Ordered needs before.visited → Ordered needs after.visited

/-- What holds of each step of a search holds of the search of a list. -/
theorem Established.foldl {step : Search ι κ → κ → Search ι κ} {wanted : List κ}
    (each : ∀ a ∈ wanted, ∀ search : Search ι κ, (step search a).issues = [] →
      Established needs search (step search a) [a])
    {search : Search ι κ} (silent : (wanted.foldl step search).issues = []) :
    Established needs search (wanted.foldl step search) wanted := by
  induction wanted generalizing search with
  | nil => exact ⟨silent, List.Subset.refl _, List.nil_subset _, id⟩
  | cons first rest ih =>
    rw [List.foldl_cons] at silent ⊢
    have tail := ih (fun a inRest => each a (List.mem_cons_of_mem _ inRest)) silent
    have head := each first List.mem_cons_self search tail.issues
    exact ⟨head.issues, fun a old => tail.keeps (head.keeps old),
      List.cons_subset.mpr ⟨tail.keeps (head.reaches List.mem_cons_self), tail.reaches⟩,
      fun old => tail.ordered (head.ordered old)⟩

theorem Onward.extend {node : κ} (onward : Onward nodes path (depth + 1)) (member : node ∈ nodes)
    (new : node ∉ path) : Onward nodes (path ++ [node]) depth := by
  constructor
  · refine List.nodup_append.mpr ⟨onward.distinct, List.nodup_singleton _, ?_⟩
    rintro a inPath b inLast rfl
    exact new (List.mem_singleton.mp inLast ▸ inPath)
  · exact List.append_subset.mpr ⟨onward.inside, by simpa using member⟩
  · have room := onward.room
    simp only [List.length_append, List.length_singleton]
    omega

section
variable [DecidableEq κ] (needs : κ → List κ) (cycle : List κ → κ → ι)

/-- Finish a node after all it needs. `path` leads to the node; a path without repetition
is no longer than the graph, which bounds the depth. -/
def visit : Nat → List κ → Search ι κ → κ → Search ι κ
  | depth, path, search, node =>
    if node ∈ path then { search with issues := search.issues ++ [cycle path node] }
    else if node ∈ search.visited then search
    else
      match depth with
      | 0 => search
      | depth + 1 =>
        let after := (needs node).foldl (visit depth (path ++ [node])) search
        { after with visited := node :: after.visited }

/-- Visit every node of a graph. -/
def explore (nodes : List κ) : Search ι κ :=
  nodes.foldl (visit needs cycle nodes.length []) { issues := [], visited := [] }

variable {needs} {cycle}

theorem visit_established (closed : ∀ a ∈ nodes, ∀ b ∈ needs a, b ∈ nodes) {search : Search ι κ}
    {node : κ} (onward : Onward nodes path depth) (member : node ∈ nodes)
    (silent : (visit needs cycle depth path search node).issues = []) :
    Established needs search (visit needs cycle depth path search node) [node] := by
  induction depth generalizing path search node with
  | zero =>
    unfold visit at silent
    have length : nodes.length ≤ path.length := by simpa using onward.room
    have full := (List.subperm_of_subset onward.distinct onward.inside).perm_of_length_le length
    rw [if_pos (full.mem_iff.mpr member)] at silent
    simp at silent
  | succ depth ih =>
    unfold visit at silent ⊢
    by_cases repeated : node ∈ path
    · rw [if_pos repeated] at silent
      simp at silent
    rw [if_neg repeated] at silent ⊢
    by_cases finished : node ∈ search.visited
    · rw [if_pos finished] at silent ⊢
      exact ⟨silent, List.Subset.refl _, by simpa using finished, id⟩
    rw [if_neg finished] at silent ⊢
    have visited : Established needs search
        ((needs node).foldl (visit needs cycle depth (path ++ [node])) search) (needs node) :=
      .foldl (fun a needed search silent =>
        ih (onward.extend member repeated) (closed node member a needed) silent) silent
    exact ⟨visited.issues, fun a old => List.mem_cons_of_mem _ (visited.keeps old), by simp,
      fun old => .cons (fun b needed => visited.reaches needed) (visited.ordered old)⟩

/-- A search that reports no cycle finishes every node in order. -/
theorem explore_ordered (closed : ∀ a ∈ nodes, ∀ b ∈ needs a, b ∈ nodes)
    (silent : (explore needs cycle nodes).issues = []) :
    Ordered needs (explore needs cycle nodes).visited ∧
      nodes ⊆ (explore needs cycle nodes).visited := by
  have start : Onward nodes [] nodes.length := ⟨List.nodup_nil, List.nil_subset _, by simp⟩
  have established : Established needs { issues := [], visited := [] }
      (explore needs cycle nodes) nodes :=
    .foldl (fun a member search silent => visit_established closed start member silent) silent
  exact ⟨established.ordered .nil, established.reaches⟩

end

/-- Every node once, each after all it needs. -/
structure Topological (needs : κ → List κ) (nodes order : List κ) : Prop where
  perm : order.Perm nodes
  before : ∀ front a back, order = front ++ a :: back → needs a ⊆ front

theorem Ordered.split {finished front back : List κ} {a : κ} (ordered : Ordered needs finished)
    (same : finished = front ++ a :: back) : needs a ⊆ back := by
  induction ordered generalizing front with
  | nil => simp at same
  | @cons head rest available _ ih =>
    cases front with
    | nil =>
      obtain ⟨rfl, rfl⟩ := List.cons.inj same
      exact fun b needed => available b needed
    | cons _ front => exact ih (List.cons.inj same).2

section
variable [DecidableEq κ] {finished order : List κ} {cycle : List κ → κ → ι}

/-- Nodes finished more than once, or outside the graph, can be left out of an order. -/
theorem Ordered.restrict (ordered : Ordered needs finished)
    (closed : ∀ a ∈ nodes, ∀ b ∈ needs a, b ∈ nodes) :
    Ordered needs (finished.dedup.filter (· ∈ nodes)) := by
  induction ordered with
  | nil => exact .nil
  | @cons a rest available _ ih =>
    by_cases again : a ∈ rest
    · rw [List.dedup_cons_of_mem again]
      exact ih
    rw [List.dedup_cons_of_notMem again]
    by_cases inside : a ∈ nodes
    · rw [List.filter_cons_of_pos (by simpa using inside)]
      refine .cons (fun b needed => List.mem_filter.mpr ⟨?_, ?_⟩) ih
      · exact List.mem_dedup.mpr (available b needed)
      · exact decide_eq_true (closed a inside b needed)
    · rw [List.filter_cons_of_neg (by simpa using inside)]
      exact ih

theorem Ordered.topological (ordered : Ordered needs finished) (complete : nodes ⊆ finished)
    (distinct : nodes.Nodup) (closed : ∀ a ∈ nodes, ∀ b ∈ needs a, b ∈ nodes) :
    ∃ order, Topological needs nodes order := by
  have restricted := ordered.restrict closed
  refine ⟨(finished.dedup.filter (· ∈ nodes)).reverse, ?_, ?_⟩
  · have same : ∀ a, a ∈ finished.dedup.filter (· ∈ nodes) ↔ a ∈ nodes := by
      intro a
      rw [List.mem_filter, List.mem_dedup, decide_eq_true_iff]
      exact ⟨And.right, fun inside => ⟨complete inside, inside⟩⟩
    refine (List.reverse_perm _).trans ?_
    exact (List.perm_ext_iff_of_nodup ((List.nodup_dedup _).filter _) distinct).mpr same
  · intro front a back same b needed
    have flipped := congrArg List.reverse same
    rw [List.reverse_reverse, List.reverse_append, List.reverse_cons, List.append_assoc,
      List.singleton_append] at flipped
    exact List.mem_reverse.mp (restricted.split flipped needed)

/-- Below a node of an order stands only what comes before it, and no ancestor does. -/
theorem visit_silent (topological : Topological needs nodes order) (distinct : nodes.Nodup)
    {front back : List κ} (same : order = front ++ back) {search : Search ι κ} {node : κ}
    (member : node ∈ front) (apart : ∀ a ∈ path, a ∉ front) :
    (visit needs cycle depth path search node).issues = search.issues := by
  induction depth generalizing path front back search node with
  | zero =>
    unfold visit
    rw [if_neg fun repeated => apart node repeated member]
    split <;> rfl
  | succ depth ih =>
    unfold visit
    rw [if_neg fun repeated => apart node repeated member]
    split
    · rfl
    obtain ⟨first, last, rfl⟩ := List.append_of_mem member
    have here : order = first ++ node :: (last ++ back) := by
      rw [same, List.append_assoc, List.cons_append]
    have once : node ∉ first := by
      have nodup := topological.perm.nodup_iff.mpr distinct
      rw [here] at nodup
      intro repeated
      exact (List.nodup_append.mp nodup).2.2 node repeated node List.mem_cons_self rfl
    have below : ∀ a ∈ path ++ [node], a ∉ first := by
      intro a inPath inFirst
      rcases List.mem_append.mp inPath with inPath | last
      · exact apart a inPath (List.mem_append_left _ inFirst)
      · exact once (List.mem_singleton.mp last ▸ inFirst)
    have each : ∀ wanted ⊆ first, ∀ search : Search ι κ,
        (wanted.foldl (visit needs cycle depth (path ++ [node])) search).issues =
          search.issues := by
      intro wanted
      induction wanted with
      | nil => exact fun _ _ => rfl
      | cons b rest rest_ih =>
        intro inside search
        obtain ⟨bFirst, restFirst⟩ := List.cons_subset.mp inside
        rw [List.foldl_cons, rest_ih restFirst]
        exact ih here bFirst below
    exact each _ (topological.before first node _ here) search

/-- The search reports nothing exactly on the graphs that have an order. -/
theorem explore_issues_eq_nil_iff (distinct : nodes.Nodup)
    (closed : ∀ a ∈ nodes, ∀ b ∈ needs a, b ∈ nodes) :
    (explore needs cycle nodes).issues = [] ↔ ∃ order, Topological needs nodes order := by
  constructor
  · intro silent
    obtain ⟨ordered, complete⟩ := explore_ordered closed silent
    exact ordered.topological complete distinct closed
  · rintro ⟨order, topological⟩
    have each : ∀ wanted ⊆ order, ∀ search : Search ι κ,
        (wanted.foldl (visit needs cycle nodes.length []) search).issues = search.issues := by
      intro wanted
      induction wanted with
      | nil => exact fun _ _ => rfl
      | cons a rest ih =>
        intro inside search
        obtain ⟨aOrder, restOrder⟩ := List.cons_subset.mp inside
        rw [List.foldl_cons, ih restOrder]
        exact visit_silent topological distinct (List.append_nil order).symm aOrder (by simp)
    exact each nodes topological.perm.symm.subset _

end

/-- What a running search has reported, entered and finished. -/
structure Traversal (ι : Type v) (κ : Type u) where
  issues : List ι
  visiting : List κ
  visited : List κ

section
variable [DecidableEq κ] (needs : κ → List κ) (cycle : List κ → κ → ι)

/-- The calls a search makes for a list of nodes below a path, to their return. -/
inductive Visits : List κ → Traversal ι κ → List κ → Traversal ι κ → Prop where
  | done : Visits trail before [] before
  | repeated (entered : node ∈ before.visiting)
      (rest : Visits trail { before with issues := before.issues ++ [cycle trail node] } others
        after) : Visits trail before (node :: others) after
  | finished (left : node ∉ before.visiting) (known : node ∈ before.visited)
      (rest : Visits trail before others after) : Visits trail before (node :: others) after
  | entered (left : node ∉ before.visiting) (unknown : node ∉ before.visited)
      (inner : Visits (trail ++ [node]) { before with visiting := before.visiting ++ [node] }
        (needs node) below)
      (rest : Visits trail { below with
          visiting := below.visiting.erase node, visited := node :: below.visited } others
        after) : Visits trail before (node :: others) after

variable {needs} {cycle}

/-- The calls have at most one outcome. -/
theorem Visits.unique {before after other : Traversal ι κ} {wanted : List κ}
    (run : Visits needs cycle path before wanted after)
    (again : Visits needs cycle path before wanted other) : after = other := by
  induction run generalizing other with
  | done =>
    cases again
    rfl
  | repeated entered _ ih =>
    cases again with
    | repeated _ rest => exact ih rest
    | finished left _ _ => exact absurd entered left
    | entered left _ _ _ => exact absurd entered left
  | finished left known _ ih =>
    cases again with
    | repeated entered _ => exact absurd entered left
    | finished _ _ rest => exact ih rest
    | entered _ unknown _ _ => exact absurd known unknown
  | entered left unknown _ _ inner_ih rest_ih =>
    cases again with
    | repeated entered _ => exact absurd entered left
    | finished _ known _ => exact absurd known unknown
    | entered _ _ inner rest =>
      obtain rfl := inner_ih inner
      exact rest_ih rest

/-- The nodes being visited are those of the path. -/
def Search.below (search : Search ι κ) (path : List κ) : Traversal ι κ :=
  { issues := search.issues, visiting := path, visited := search.visited }

theorem visits_below {step : Search ι κ → κ → Search ι κ} {wanted : List κ}
    (each : ∀ node ∈ wanted, ∀ (search : Search ι κ) others after,
      Visits needs cycle path ((step search node).below path) others after →
      Visits needs cycle path (search.below path) (node :: others) after)
    (search : Search ι κ) :
    Visits needs cycle path (search.below path) wanted ((wanted.foldl step search).below path) := by
  induction wanted generalizing search with
  | nil => exact .done
  | cons node others ih =>
    have rest := ih (fun a inOthers => each a (List.mem_cons_of_mem _ inOthers)) (step search node)
    exact each node List.mem_cons_self search others _ rest

/-- Along a path that can still be extended, the bound is never reached: the calls return
and what they return is the bounded search's answer. -/
theorem visit_visits (closed : ∀ a ∈ nodes, ∀ b ∈ needs a, b ∈ nodes) {search : Search ι κ}
    {node : κ} {others : List κ} {after : Traversal ι κ} (onward : Onward nodes path depth)
    (member : node ∈ nodes)
    (rest : Visits needs cycle path ((visit needs cycle depth path search node).below path) others
      after) : Visits needs cycle path (search.below path) (node :: others) after := by
  induction depth generalizing path search node others after with
  | zero =>
    have length : nodes.length ≤ path.length := by simpa using onward.room
    have full := (List.subperm_of_subset onward.distinct onward.inside).perm_of_length_le length
    have repeated : node ∈ path := full.mem_iff.mpr member
    unfold visit at rest
    rw [if_pos repeated] at rest
    exact .repeated repeated rest
  | succ depth ih =>
    unfold visit at rest
    by_cases repeated : node ∈ path
    · rw [if_pos repeated] at rest
      exact .repeated repeated rest
    rw [if_neg repeated] at rest
    by_cases finished : node ∈ search.visited
    · rw [if_pos finished] at rest
      exact .finished repeated finished rest
    rw [if_neg finished] at rest
    have inner : Visits needs cycle (path ++ [node])
        (search.below (path ++ [node])) (needs node)
        (((needs node).foldl (visit needs cycle depth (path ++ [node])) search).below
          (path ++ [node])) :=
      visits_below (fun a needed search others after =>
        ih (onward.extend member repeated) (closed node member a needed)) search
    refine .entered repeated finished inner ?_
    have erased : (path ++ [node]).erase node = path := by
      rw [List.erase_append_right _ repeated, List.erase_cons_head, List.append_nil]
    simpa only [Search.below, erased] using rest

/-- The search returns on every graph, with the answer of the bounded one. -/
theorem explore_visits (closed : ∀ a ∈ nodes, ∀ b ∈ needs a, b ∈ nodes) :
    Visits needs cycle [] { issues := [], visiting := [], visited := [] } nodes
      ((explore needs cycle nodes).below []) := by
  have start : Onward nodes [] nodes.length := ⟨List.nodup_nil, List.nil_subset _, by simp⟩
  exact visits_below (fun node member search others after =>
    visit_visits closed start member) { issues := [], visited := [] }

end
end Anastom.Dependencies
