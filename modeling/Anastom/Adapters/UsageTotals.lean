import Anastom.Adapters.PublicEvents
import Anastom.Data.Restarts

/-! When the usage totals of a session are exact or absent, whatever the order of its
messages. A sum beyond the safe integers deletes its counter, and the next count starts it
again, so a session that overflows may report a part of its usage as the whole. -/
namespace Anastom.PiUsageAccumulator

inductive CounterName where
  | inputTokens | outputTokens | cacheReadTokens | cacheWriteTokens | reasoningTokens | totalTokens
  deriving DecidableEq, Repr

namespace CounterName

def total : CounterName → RuntimeUsage → Option Nat
  | .inputTokens => RuntimeUsage.inputTokens
  | .outputTokens => RuntimeUsage.outputTokens
  | .cacheReadTokens => RuntimeUsage.cacheReadTokens
  | .cacheWriteTokens => RuntimeUsage.cacheWriteTokens
  | .reasoningTokens => RuntimeUsage.reasoningTokens
  | .totalTokens => RuntimeUsage.totalTokens

/-- Uncached input, cache read and cache write, where all are counted and the sum is safe. -/
def exactInput (usage : Counters) : Option Nat := do
  let input ← countedPart usage.input
  let cacheRead ← countedPart usage.cacheRead
  let cacheWrite ← countedPart usage.cacheWrite
  let sum := input + cacheRead + cacheWrite
  if 1 ≤ sum ∧ sum ≤ maxSafeInteger then some sum else none

/-- What one message counts. -/
def count : CounterName → Counters → Option Nat
  | .inputTokens, usage => exactInput usage
  | .outputTokens, usage => positiveCounter usage.output
  | .cacheReadTokens, usage => positiveCounter usage.cacheRead
  | .cacheWriteTokens, usage => positiveCounter usage.cacheWrite
  | .reasoningTokens, usage => positiveCounter usage.reasoning
  | .totalTokens, usage => positiveCounter usage.totalTokens

end CounterName

theorem safe_iff {n : Nat} : n ≤ maxSafeInteger ↔ n < 2 ^ 53 := by
  have size : maxSafeInteger + 1 = 2 ^ 53 := by decide
  omega

/-- The parts of the input are added in double arithmetic, which keeps what is safe. -/
theorem inclusiveInput_eq (usage : Counters) :
    inclusiveInput usage = CounterName.exactInput usage := by
  have sum (a b c : Nat) : a + b + c = 0 + [a, b, c].sum := by simp [Nat.add_assoc]
  unfold inclusiveInput CounterName.exactInput
  cases countedPart usage.input with
  | none => rfl
  | some a =>
    cases countedPart usage.cacheRead with
    | none => rfl
    | some b =>
      cases countedPart usage.cacheWrite with
      | none => rfl
      | some c =>
        simp only [Option.bind_eq_bind, Option.bind_some, safe_iff]
        by_cases small : a + b + c < 2 ^ 53
        · rw [sum] at small ⊢
          rw [Doubles.foldl_add_exact small]
        · have large := small
          rw [sum, ← Doubles.foldl_add_lt_iff] at large
          rw [if_neg fun safe => large safe.2, if_neg fun safe => small safe.2]

theorem addCount_some (total : Option Nat) (n : Nat) :
    addCount total (some n) = Restarts.add maxSafeInteger total n := by
  unfold addCount Restarts.add
  simp only [safe_iff, Doubles.add_lt_iff]
  split
  · rename_i safe
    rw [Doubles.add_exact safe]
  · rfl

/-- A counter of the totals grows by what the message counts. -/
theorem total_addUsage (name : CounterName) (totals : RuntimeUsage) (usage : Counters) :
    name.total (addUsage totals usage) =
      (name.count usage).toList.foldl (Restarts.add maxSafeInteger) (name.total totals) := by
  have grown (total count : Option Nat) :
      addCount total count = count.toList.foldl (Restarts.add maxSafeInteger) total := by
    cases count with
    | none => rfl
    | some n => exact addCount_some total n
  cases name with
  | inputTokens =>
    show addCount totals.inputTokens (inclusiveInput usage) = _
    rw [inclusiveInput_eq]
    exact grown _ _
  | outputTokens => exact grown _ _
  | cacheReadTokens => exact grown _ _
  | cacheWriteTokens => exact grown _ _
  | reasoningTokens => exact grown _ _
  | totalTokens => exact grown _ _

theorem positiveCounter_bounds {value : Option JsonNumber} {n : Nat}
    (counted : positiveCounter value = some n) : 1 ≤ n ∧ n ≤ maxSafeInteger := by
  unfold positiveCounter at counted
  obtain ⟨number, _, counted⟩ := Option.bind_eq_some_iff.mp counted
  obtain ⟨k, _, counted⟩ := Option.bind_eq_some_iff.mp counted
  split at counted
  · obtain rfl := Option.some.inj counted
    omega
  · cases counted

theorem exactInput_bounds {usage : Counters} {n : Nat}
    (counted : CounterName.exactInput usage = some n) : 1 ≤ n ∧ n ≤ maxSafeInteger := by
  unfold CounterName.exactInput at counted
  obtain ⟨_, _, counted⟩ := Option.bind_eq_some_iff.mp counted
  obtain ⟨_, _, counted⟩ := Option.bind_eq_some_iff.mp counted
  obtain ⟨_, _, counted⟩ := Option.bind_eq_some_iff.mp counted
  simp only at counted
  split at counted
  · rename_i safe
    exact Option.some.inj counted ▸ safe
  · cases counted

theorem CounterName.count_bounds {name : CounterName} {usage : Counters} {n : Nat}
    (counted : name.count usage = some n) : 1 ≤ n ∧ n ≤ maxSafeInteger := by
  cases name with
  | inputTokens => exact exactInput_bounds counted
  | outputTokens => exact positiveCounter_bounds counted
  | cacheReadTokens => exact positiveCounter_bounds counted
  | cacheWriteTokens => exact positiveCounter_bounds counted
  | reasoningTokens => exact positiveCounter_bounds counted
  | totalTokens => exact positiveCounter_bounds counted

section
variable (bodies : Nat → JsonValue)

/-- The messages that a session hands over, each object by its identity. -/
def messages (observed : List Nat) : List PiMessage := observed.map fun id => ⟨id, bodies id⟩

def assistant (id : Nat) : Bool := textField (bodies id) "role" == some "assistant"

def distinctAssistants (observed : List Nat) : List Nat := (observed.filter (assistant bodies)).dedup

/-- What a message object counts for a counter. -/
def counted (name : CounterName) (id : Nat) : Option Nat :=
  name.count (counters (recordField (bodies id) "usage"))

/-- What the distinct assistant messages count. -/
def counts (name : CounterName) (observed : List Nat) : List Nat :=
  (distinctAssistants bodies observed).filterMap (counted bodies name)

/-- The assistant messages in the order in which they are first observed. -/
def fresh : List Nat → List Nat → List Nat
  | _, [] => []
  | seen, id :: rest =>
    if seen.contains id = true ∨ textField (bodies id) "role" ≠ some "assistant" then
      fresh seen rest
    else id :: fresh (id :: seen) rest

variable {bodies} {seen observed : List Nat} {name : CounterName}

theorem mem_fresh {id : Nat} :
    id ∈ fresh bodies seen observed ↔ id ∈ observed ∧ assistant bodies id = true ∧ id ∉ seen := by
  induction observed generalizing seen with
  | nil => simp [fresh]
  | cons first rest ih =>
    unfold fresh
    split
    · rename_i skipped
      rw [ih, List.mem_cons]
      refine ⟨fun ⟨inRest, role, new⟩ => ⟨.inr inRest, role, new⟩, ?_⟩
      rintro ⟨rfl | inRest, role, new⟩
      · rcases skipped with old | other
        · exact absurd (List.contains_iff_mem.mp old) new
        · exact absurd (beq_iff_eq.mp role) other
      · exact ⟨inRest, role, new⟩
    · rename_i taken
      obtain ⟨new, role⟩ := not_or.mp taken
      rw [List.mem_cons, ih, List.mem_cons, List.mem_cons, not_or]
      constructor
      · rintro (rfl | ⟨inRest, named, _, unseen⟩)
        · exact ⟨.inl rfl, beq_iff_eq.mpr (not_not.mp role),
            fun old => new (List.contains_iff_mem.mpr old)⟩
        · exact ⟨.inr inRest, named, unseen⟩
      · rintro ⟨here, named, unseen⟩
        by_cases same : id = first
        · exact .inl same
        · exact .inr ⟨here.resolve_left same, named, same, unseen⟩

theorem fresh_nodup : (fresh bodies seen observed).Nodup := by
  induction observed generalizing seen with
  | nil => exact List.nodup_nil
  | cons first rest ih =>
    unfold fresh
    split
    · exact ih
    · refine List.nodup_cons.mpr ⟨fun again => ?_, ih⟩
      exact (mem_fresh.mp again).2.2 List.mem_cons_self

theorem fresh_perm : (fresh bodies [] observed).Perm (distinctAssistants bodies observed) := by
  refine (List.perm_ext_iff_of_nodup fresh_nodup (List.nodup_dedup _)).mpr fun id => ?_
  rw [mem_fresh, List.mem_dedup, List.mem_filter]
  simp

/-- Messages that were seen, or are not the assistant's, add nothing. -/
theorem fresh_append {front back : List Nat} (distinct : front.Nodup)
    (assistants : ∀ id ∈ front, assistant bodies id = true) (new : ∀ id ∈ front, id ∉ seen)
    (known : ∀ id ∈ back, assistant bodies id = true → id ∈ front ∨ id ∈ seen) :
    fresh bodies seen (front ++ back) = front := by
  induction front generalizing seen with
  | nil =>
    refine List.eq_nil_iff_forall_not_mem.mpr fun id member => ?_
    obtain ⟨inside, role, unseen⟩ := mem_fresh.mp member
    exact unseen ((known id inside role).resolve_left List.not_mem_nil)
  | cons first rest ih =>
    obtain ⟨absent, distinct⟩ := List.nodup_cons.mp distinct
    have role := assistants first List.mem_cons_self
    have unseen := new first List.mem_cons_self
    rw [List.cons_append, fresh, if_neg]
    · refine congrArg _ (ih distinct (fun id member => assistants id (.tail _ member)) ?_ ?_)
      · intro id member seenNow
        rcases List.mem_cons.mp seenNow with rfl | old
        · exact absent member
        · exact new id (.tail _ member) old
      · intro id member named
        rcases known id member named with inFront | old
        · rcases List.mem_cons.mp inFront with rfl | inRest
          · exact .inr List.mem_cons_self
          · exact .inl inRest
        · exact .inr (.tail _ old)
    · rintro (old | other)
      · exact unseen (List.contains_iff_mem.mp old)
      · exact other (beq_iff_eq.mp role)

theorem foldl_observe_total {accumulator : PiUsageAccumulator} :
    name.total ((messages bodies observed).foldl observe accumulator).totals =
      ((fresh bodies accumulator.seen observed).filterMap (counted bodies name)).foldl
        (Restarts.add maxSafeInteger) (name.total accumulator.totals) := by
  induction observed generalizing accumulator with
  | nil => rfl
  | cons first rest ih =>
    show name.total ((messages bodies rest).foldl observe
      (observe accumulator ⟨first, bodies first⟩)).totals = _
    rw [ih, observe_eq, fresh]
    split
    · rfl
    · rw [total_addUsage]
      show _ = (List.filterMap (counted bodies name) (first :: _)).foldl _ _
      cases count : counted bodies name first with
      | none =>
        rw [List.filterMap_cons_none count]
        unfold counted at count
        rw [count]
        rfl
      | some n =>
        rw [List.filterMap_cons_some count]
        unfold counted at count
        rw [count]
        rfl

/-- A total is the restarting sum of what the messages count, in the order observed. -/
theorem finalUsage_total :
    name.total (finalUsage (messages bodies observed)) =
      Restarts.run maxSafeInteger
        ((fresh bodies [] observed).filterMap (counted bodies name)) := by
  have initial : name.total partialUsage = none := by cases name <;> rfl
  have total := @foldl_observe_total bodies observed name {}
  rw [initial] at total
  exact total

theorem fresh_counts_perm :
    ((fresh bodies [] observed).filterMap (counted bodies name)).Perm
      (counts bodies name observed) := fresh_perm.filterMap _

theorem counts_fit : ∀ n ∈ counts bodies name observed, n ≤ maxSafeInteger := by
  intro n member
  obtain ⟨id, _, count⟩ := List.mem_filterMap.mp member
  exact (CounterName.count_bounds count).2

theorem counts_perm {other : List Nat} (perm : other.Perm observed) :
    (counts bodies name other).Perm (counts bodies name observed) := by
  refine List.Perm.filterMap _ ?_
  refine (List.perm_ext_iff_of_nodup (List.nodup_dedup _) (List.nodup_dedup _)).mpr fun id => ?_
  rw [List.mem_dedup, List.mem_dedup, List.mem_filter, List.mem_filter, perm.mem_iff]

/-- An order of the kept values is the order of some arrangement of the list. -/
theorem exists_filterMap_perm {α β : Type} [DecidableEq α] {f : α → Option β} {list : List α}
    {order : List β} (perm : order.Perm (list.filterMap f)) :
    ∃ arranged : List α, arranged.Perm list ∧ arranged.filterMap f = order := by
  induction order generalizing list with
  | nil => exact ⟨list, .refl _, perm.symm.eq_nil⟩
  | cons b rest ih =>
    obtain ⟨a, member, value⟩ := List.mem_filterMap.mp (perm.subset List.mem_cons_self)
    have erased := List.perm_cons_erase member
    have shorter := perm.trans (erased.filterMap f)
    rw [List.filterMap_cons_some value] at shorter
    obtain ⟨arranged, same, values⟩ := ih shorter.cons_inv
    refine ⟨a :: arranged, (same.cons a).trans erased.symm, ?_⟩
    rw [List.filterMap_cons_some value, values]

/-- Every order of what the messages count is that of an order of the messages. -/
theorem exists_order {order : List Nat} (perm : order.Perm (counts bodies name observed)) :
    ∃ other : List Nat, other.Perm observed ∧
      (fresh bodies [] other).filterMap (counted bodies name) = order := by
  obtain ⟨arranged, same, values⟩ := exists_filterMap_perm perm
  have member {id : Nat} : id ∈ arranged ↔ id ∈ observed ∧ assistant bodies id = true := by
    rw [same.mem_iff, distinctAssistants, List.mem_dedup, List.mem_filter]
  have distinct : arranged.Nodup := same.nodup_iff.mpr (List.nodup_dedup _)
  have inside : arranged.Subperm observed :=
    List.subperm_of_subset distinct fun id here => (member.mp here).1
  refine ⟨arranged ++ observed.diff arranged,
    List.subperm_append_diff_self_of_count_le fun id _ => inside.count_le id, ?_⟩
  rw [fresh_append distinct (fun id here => (member.mp here).2) (fun id _ => List.not_mem_nil),
    values]
  intro id rest role
  exact .inl (member.mpr ⟨List.diff_subset _ _ rest, role⟩)

variable (bodies observed)

/-- Each total is absent or the sum of what the distinct assistant messages count. -/
def ExactOrAbsent : Prop :=
  ∀ name : CounterName, name.total (finalUsage (messages bodies observed)) = none ∨
    name.total (finalUsage (messages bodies observed)) = some (counts bodies name observed).sum

/-- No order of the messages gives other totals. -/
def OrderFree : Prop :=
  ∀ other : List Nat, other.Perm observed →
    finalUsage (messages bodies other) = finalUsage (messages bodies observed)

/-- A counter stays safe, or it is deleted by every group of some size and by none smaller,
with no message left over. -/
def Dependable (name : CounterName) : Prop :=
  (counts bodies name observed).sum ≤ maxSafeInteger ∨
    ∃ size, 0 < size ∧ size ∣ (counts bodies name observed).length ∧
      Restarts.Uniform maxSafeInteger size (counts bodies name observed)

variable {bodies observed}

theorem Dependable.total (dependable : Dependable bodies observed name) :
    name.total (finalUsage (messages bodies observed)) =
      if counts bodies name observed = [] ∨ maxSafeInteger < (counts bodies name observed).sum
      then none else some (counts bodies name observed).sum := by
  rw [finalUsage_total]
  have perm := @fresh_counts_perm bodies observed name
  by_cases empty : counts bodies name observed = []
  · rw [if_pos (.inl empty)]
    rw [empty] at perm
    rw [perm.eq_nil]
    rfl
  rcases Nat.lt_or_ge maxSafeInteger (counts bodies name observed).sum with exceeds | safe
  · rw [if_pos (.inr exceeds)]
    have groups := dependable.resolve_left (Nat.not_le.mpr exceeds)
    exact (Restarts.dropped_iff counts_fit).mpr groups _ perm
  · rw [if_neg (by simp [empty, Nat.not_lt.mpr safe]), ← perm.sum_eq]
    refine Restarts.run_of_le (fun none => empty ?_) (perm.sum_eq ▸ safe)
    rw [none] at perm
    exact perm.symm.eq_nil

theorem Dependable.perm {other : List Nat} (dependable : Dependable bodies observed name)
    (perm : other.Perm observed) : Dependable bodies other name := by
  have same := @counts_perm bodies observed name other perm
  unfold Dependable
  rw [same.sum_eq, same.length_eq]
  refine dependable.imp_right ?_
  rintro ⟨size, positive, divides, uniform⟩
  exact ⟨size, positive, divides, uniform.perm same⟩

theorem foldl_observe_coverage {accumulator : PiUsageAccumulator} {list : List PiMessage} :
    (list.foldl observe accumulator).totals.coverage = accumulator.totals.coverage := by
  induction list generalizing accumulator with
  | nil => rfl
  | cons first rest ih =>
    rw [List.foldl_cons, ih, observe_eq]
    split <;> rfl

theorem usage_ext {left right : RuntimeUsage} (coverage : left.coverage = right.coverage)
    (totals : ∀ name : CounterName, name.total left = name.total right) : left = right := by
  have inputTokens := totals .inputTokens
  have outputTokens := totals .outputTokens
  have cacheReadTokens := totals .cacheReadTokens
  have cacheWriteTokens := totals .cacheWriteTokens
  have reasoningTokens := totals .reasoningTokens
  have totalTokens := totals .totalTokens
  cases left
  cases right
  simp_all [CounterName.total]

end

/-- Totals are exact or absent, in every order of the messages, exactly when each counter of
the session is dependable. -/
theorem totals_exact_iff (bodies : Nat → JsonValue) (observed : List Nat) :
    ExactOrAbsent bodies observed ∧ OrderFree bodies observed ↔
      ∀ name : CounterName, Dependable bodies observed name := by
  constructor
  · rintro ⟨exactOrAbsent, free⟩ name
    rcases Nat.lt_or_ge maxSafeInteger (counts bodies name observed).sum with exceeds | safe
    · right
      have absent : name.total (finalUsage (messages bodies observed)) = none := by
        refine (exactOrAbsent name).resolve_right fun whole => ?_
        rw [finalUsage_total] at whole
        exact Nat.not_lt.mpr (Restarts.run_le _ whole) exceeds
      refine (Restarts.dropped_iff counts_fit).mp fun order perm => ?_
      obtain ⟨other, arranged, values⟩ := exists_order perm
      rw [← values, ← finalUsage_total, free other arranged, absent]
    · exact .inl safe
  · intro dependable
    refine ⟨fun name => ?_, fun other perm => usage_ext ?_ fun name => ?_⟩
    · rw [(dependable name).total]
      split
      · exact .inl rfl
      · exact .inr rfl
    · exact foldl_observe_coverage.trans foldl_observe_coverage.symm
    · have same := @counts_perm bodies observed name other perm
      have empty : counts bodies name other = [] ↔ counts bodies name observed = [] := by
        rw [← List.length_eq_zero_iff, same.length_eq, List.length_eq_zero_iff]
      rw [((dependable name).perm perm).total, (dependable name).total, same.sum_eq]
      simp only [empty]

/-- Assistant messages that count output only. -/
def outputMessage (tokens : Nat) : JsonValue :=
  .object [("role", .string "assistant"), ("usage", .object [("output", .nat tokens)])]

def overflowing : Nat → JsonValue
  | 0 => outputMessage 9007199254740991
  | 1 => outputMessage 1
  | _ => outputMessage 5

/-- After the sum is deleted, the last message is reported as the whole output. -/
theorem overflowing_inexact : ¬ ∀ (bodies : Nat → JsonValue) (observed : List Nat),
    ExactOrAbsent bodies observed ∧ OrderFree bodies observed := by
  intro always
  have reported : CounterName.total .outputTokens (finalUsage (messages overflowing [0, 1, 2])) =
    some 5 := by decide +kernel
  have counted : counts overflowing .outputTokens [0, 1, 2] = [9007199254740991, 1, 5] := by
    decide +kernel
  have exactOrAbsent := (always overflowing [0, 1, 2]).1 .outputTokens
  rw [reported, counted] at exactOrAbsent
  rcases exactOrAbsent with absent | whole
  · cases absent
  · exact absurd (Option.some.inj whole) (by decide)

end Anastom.PiUsageAccumulator
