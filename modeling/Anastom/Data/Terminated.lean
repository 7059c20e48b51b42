import Mathlib.Data.List.Basic

/-! Sequences cut at a stop mark. What stands before the first mark is determined by the whole,
so a sequence of records whose heads hold no mark can be read from the front, when a head says
how long the body behind it is. -/
namespace Anastom.Terminated
variable {α : Type} {stop : α}

/-- What holds no mark stands before the first mark. -/
theorem line_prefix {pending rest line more : List α} (inside : stop ∉ pending)
    (same : pending ++ rest = line ++ stop :: more) : ∃ tail, line = pending ++ tail := by
  rcases List.append_eq_append_iff.mp same with ⟨tail, joined, _⟩ | ⟨tail, joined, behind⟩
  · exact ⟨tail, joined⟩
  · cases tail with
    | nil =>
      rw [List.append_nil] at joined
      exact ⟨[], by rw [List.append_nil, joined]⟩
    | cons mark tail =>
      rw [List.cons_append] at behind
      rw [joined, ← (List.cons.inj behind).1] at inside
      exact absurd (List.mem_append_right line List.mem_cons_self) inside

theorem line_unique {line other more rest : List α} (whole : stop ∉ line) (inside : stop ∉ other)
    (same : line ++ stop :: more = other ++ stop :: rest) : line = other ∧ more = rest := by
  obtain ⟨tail, longer⟩ := line_prefix whole same
  obtain ⟨back, shorter⟩ := line_prefix inside same.symm
  have lengths := congrArg List.length longer
  have lengths' := congrArg List.length shorter
  rw [List.length_append] at lengths lengths'
  have empty : tail = [] := List.eq_nil_of_length_eq_zero (by omega)
  rw [empty, List.append_nil] at longer
  subst longer
  exact ⟨rfl, (List.cons.inj (List.append_cancel_left same)).2⟩

/-- Heads and bodies, with a mark behind each. -/
def stream (stop : α) (records : List (List α × List α)) : List α :=
  records.flatMap fun record => record.1 ++ stop :: (record.2 ++ [stop])

/-- Records with one stream are the same, when equal heads stand before bodies of one length. -/
theorem stream_injective {records others : List (List α × List α)}
    (free : ∀ record ∈ records, stop ∉ record.1) (free' : ∀ record ∈ others, stop ∉ record.1)
    (sized : ∀ record ∈ records, ∀ other ∈ others, record.1 = other.1 →
      record.2.length = other.2.length)
    (same : stream stop records = stream stop others) : records = others := by
  induction records generalizing others with
  | nil =>
    cases others with
    | nil => rfl
    | cons other others => simp [stream] at same
  | cons record records ih =>
    cases others with
    | nil => simp [stream] at same
    | cons other others =>
      simp only [stream, List.flatMap_cons, List.append_assoc, List.cons_append] at same
      obtain ⟨heads, behind⟩ := line_unique (free record List.mem_cons_self)
        (free' other List.mem_cons_self) same
      have lengths := sized record List.mem_cons_self other List.mem_cons_self heads
      obtain ⟨bodies, rest⟩ := List.append_inj behind lengths
      have tails : records = others := ih
        (fun record member => free record (List.mem_cons_of_mem _ member))
        (fun record member => free' record (List.mem_cons_of_mem _ member))
        (fun record member other member' =>
          sized record (List.mem_cons_of_mem _ member) other (List.mem_cons_of_mem _ member'))
        (List.cons.inj rest).2
      rw [tails, Prod.ext heads bodies]

end Anastom.Terminated
