import Anastom.ExecutionHost.EventPages

/-! A client that polls the events of a supervisor with the cursor that was returned last.
Ordinals grow with every event, a page holds all that is retained beyond the cursor, and the
terminal record is announced with the events that came before it; so the client sees each
event once, in order, and misses none but logs that were dropped. -/
namespace Anastom
open RetainedEvents

section Pages
variable {queue : RetainedEvents} {history : History} {cursor : Nat} {value : RetainedEvent}

theorem ordinals_filter (test : RetainedEvent → Bool) (events : List RetainedEvent)
    (increasing : (events.map RetainedEvent.ordinal).Pairwise (· < ·)) :
    ((events.filter test).map RetainedEvent.ordinal).Pairwise (· < ·) :=
  increasing.sublist ((List.filter_sublist).map RetainedEvent.ordinal)

theorem le_getLast_of_increasing {events : List RetainedEvent} {last : RetainedEvent}
    (increasing : (events.map RetainedEvent.ordinal).Pairwise (· < ·)) (listed : value ∈ events)
    (ends : events.getLast? = some last) : value.ordinal ≤ last.ordinal := by
  obtain ⟨before, rfl⟩ := List.getLast?_eq_some_iff.mp ends
  rcases List.mem_append.mp listed with old | final
  · rw [List.map_append, List.pairwise_append] at increasing
    exact (increasing.2.2 _ (List.mem_map_of_mem old) _ List.mem_cons_self).le
  · rw [List.mem_singleton.mp final]

theorem beyond_le_nextCursor (increasing : queue.ordinals.Pairwise (· < ·))
    (listed : value ∈ beyond cursor queue) : value.ordinal ≤ nextCursor cursor queue := by
  rw [nextCursor]
  cases last : (beyond cursor queue).getLast? with
  | none =>
    rw [List.getLast?_eq_none_iff.mp last] at listed
    cases listed
  | some final => exact le_getLast_of_increasing (ordinals_filter _ _ increasing) listed last

theorem le_nextCursor (cursor : Nat) (queue : RetainedEvents) : cursor ≤ nextCursor cursor queue := by
  rw [nextCursor]
  cases last : (beyond cursor queue).getLast? with
  | none => exact Nat.le_refl _
  | some final =>
    have later := (List.mem_filter.mp (List.mem_of_getLast? last)).2
    exact (of_decide_eq_true later).le

/-- What was pushed beyond the cursor is on the page, unless it is a log that was dropped. -/
theorem pushed_beyond (recorded : history.Recorded) (pushed : value ∈ history.pushed)
    (later : cursor < value.ordinal) : if value.event.isLog then
      value.ordinal ∈ (beyond cursor history.queue).map RetainedEvent.ordinal ∨
        value.ordinal ∉ history.queue.ordinals
    else value ∈ beyond cursor history.queue := by
  cases log : value.event.isLog with
  | true =>
    rw [if_pos rfl]
    by_cases listed : value.ordinal ∈ history.queue.ordinals
    · left
      obtain ⟨held, member, same⟩ := List.mem_map.mp listed
      refine List.mem_map.mpr ⟨held, List.mem_filter.mpr ⟨member, ?_⟩, same⟩
      rw [same]
      exact decide_eq_true later
    · exact .inr listed
  | false =>
    rw [if_neg Bool.false_ne_true]
    have kept : value ∈ history.queue.kept := by
      rw [recorded.kept]
      exact List.mem_filter.mpr ⟨pushed, by rw [log]; rfl⟩
    exact List.mem_filter.mpr ⟨(List.mem_filter.mp kept).1, decide_eq_true later⟩

end Pages

/-- The loop of `events`: its request is under way, or it holds an answer with the events of
it that it has not yielded yet, each with the ordinal that the supervisor gave it. -/
inductive EventLoop where
  | idle
  | asking
  | holding (rest : List RetainedEvent) (page : EventPage)
  | ended
  deriving DecidableEq, Repr

/-- A supervisor and its client, with what the client has yielded so far and what had been
pushed when the terminal record became available. -/
structure Polling where
  history : History := {}
  published : Option (List RetainedEvent) := none
  loop : EventLoop := .idle
  cursor : Nat := 0
  failed : Bool := false
  yielded : List RetainedEvent := []
  terminalRecord : Bool := false
  released : Bool := false

namespace Polling

inductive Step where
  | call (call : EventCall)
  | publish
  | start
  | answer (state : ExecutionManifestState)
  | next
  | fail
  | collect
  | release

/-- `terminal = value`, which is set once. -/
def publish (polling : Polling) : Polling :=
  { polling with published := polling.published <|> some polling.history.pushed }

/-- A consumer that comes after the terminal record was read gets the events of that record;
it does not poll. -/
def start (polling : Polling) : Polling :=
  if polling.loop = .idle ∧ polling.terminalRecord = false then { polling with loop := .asking }
  else polling

/-- The supervisor answers the request for the events beyond the cursor. -/
def answer (state : ExecutionManifestState) (polling : Polling) : Polling :=
  match polling.loop with
  | .asking =>
    { polling with
      loop := .holding (beyond polling.cursor polling.history.queue)
        (polling.history.queue.eventPage state polling.published.isSome polling.cursor) }
  | _ => polling

/-- The loop yields the next event of its page, or is done with the page. -/
def next (polling : Polling) : Polling :=
  if polling.failed then polling
  else match polling.loop with
    | .holding (value :: rest) page =>
      { polling with loop := .holding rest page, yielded := polling.yielded ++ [value] }
    | .holding [] page =>
      { polling with
        loop := if page.terminalAvailable then .ended else .asking
        cursor := page.nextCursor }
    | _ => polling

/-- The loop no longer needs the supervisor, and `finishEvents` was called if it ever ran. -/
def Done (polling : Polling) : Prop :=
  polling.loop = .idle ∨ polling.loop = .ended ∨ polling.failed = true

instance (polling : Polling) : Decidable polling.Done :=
  inferInstanceAs (Decidable (_ ∨ _ ∨ _))

/-- `collectTerminal` reads the record once the supervisor says that it is available. -/
def collect (polling : Polling) : Polling :=
  if polling.published.isSome then { polling with terminalRecord := true } else polling

/-- It awaits the loop before it releases the supervisor. -/
def release (polling : Polling) : Polling :=
  if polling.terminalRecord = true ∧ polling.Done then { polling with released := true }
  else polling

/-- A request or its answer may fail, and a consumer may leave, at any time. -/
def step (polling : Polling) : Step → Polling
  | .call call => { polling with history := polling.history.call call }
  | .publish => polling.publish
  | .start => polling.start
  | .answer state => polling.answer state
  | .next => polling.next
  | .fail => { polling with failed := true }
  | .collect => polling.collect
  | .release => polling.release

def run (steps : List Step) : Polling := steps.foldl step {}

/-- The events that the client has taken from the supervisor. -/
def taken (polling : Polling) : List RetainedEvent :=
  match polling.loop with
  | .holding rest _ => polling.yielded ++ rest
  | _ => polling.yielded

/-- The cursor of the next request. -/
def frontier (polling : Polling) : Nat :=
  match polling.loop with
  | .holding _ page => page.nextCursor
  | _ => polling.cursor

/-- A pushed event is among those taken, unless it is a log that the supervisor dropped. -/
def Accounted (queue : RetainedEvents) (taken : List RetainedEvent) (value : RetainedEvent) :
    Prop :=
  if value.event.isLog then
    value.ordinal ∈ taken.map RetainedEvent.ordinal ∨ value.ordinal ∉ queue.ordinals
  else value ∈ taken

/-- The events of the page that is held are those last yielded and those that wait. -/
def Paged (yielded rest : List RetainedEvent) (page : EventPage) : Prop :=
  ∃ given, given <:+ yielded ∧ page.events = (given ++ rest).map RetainedEvent.event

/-- All events that came before the terminal record, other than logs, are taken. -/
def Announced (published : Option (List RetainedEvent)) (taken : List RetainedEvent) : Prop :=
  ∃ pushed, published = some pushed ∧ ∀ value ∈ pushed, value.event.isLog = false → value ∈ taken

structure Delivering (polling : Polling) : Prop where
  recorded : polling.history.Recorded
  increasing : (polling.taken.map RetainedEvent.ordinal).Pairwise (· < ·)
  bound : ∀ value ∈ polling.taken, value.ordinal ≤ polling.frontier
  frontier : polling.frontier ≤ polling.history.queue.ordinal
  origin : ∀ value ∈ polling.taken,
    value.ordinal ∈ polling.history.pushed.map RetainedEvent.ordinal ∧
    (value.event.isLog = false → value ∈ polling.history.pushed)
  covered : ∀ value ∈ polling.history.pushed, value.ordinal ≤ polling.frontier →
    Accounted polling.history.queue polling.taken value
  paged : ∀ rest page, polling.loop = .holding rest page → Paged polling.yielded rest page
  published : ∀ pushed ∈ polling.published, pushed ⊆ polling.history.pushed
  announced : ∀ rest page, polling.loop = .holding rest page → page.terminalAvailable = true →
    Announced polling.published polling.taken
  ended : polling.loop = .ended → Announced polling.published polling.taken
  released : polling.released = true → polling.terminalRecord = true ∧ polling.Done

variable {polling : Polling} {queue : RetainedEvents} {taken : List RetainedEvent}
  {value : RetainedEvent}

theorem Accounted.later {before after : History} (accounted : Accounted before.queue taken value)
    (extends' : before.Extends after) (early : value.ordinal ≤ before.queue.ordinal) :
    Accounted after.queue taken value := by
  rw [Accounted] at accounted ⊢
  split
  case isTrue log =>
    rw [if_pos log] at accounted
    refine accounted.imp_right fun gone listed => ?_
    rcases extends'.retained _ listed with old | new
    · exact gone old
    · exact absurd early (Nat.not_le_of_lt new)
  case isFalse other =>
    rwa [if_neg other] at accounted

theorem Accounted.more {others : List RetainedEvent} (accounted : Accounted queue taken value) :
    Accounted queue (taken ++ others) value := by
  rw [Accounted] at accounted ⊢
  split
  case isTrue log =>
    rw [if_pos log] at accounted
    rw [List.map_append]
    exact accounted.imp_left (List.mem_append_left _)
  case isFalse other =>
    rw [if_neg other] at accounted
    exact List.mem_append_left _ accounted

theorem Delivering.call (delivering : Delivering polling) (call : EventCall) :
    Delivering { polling with history := polling.history.call call } := by
  obtain ⟨recorded, extends'⟩ := History.call_recorded call delivering.recorded
  refine
    { delivering with
      recorded
      frontier := Nat.le_trans delivering.frontier extends'.ordinal
      origin := fun value listed => ?_
      covered := fun value pushed early => ?_
      published := fun pushed known =>
        List.Subset.trans (delivering.published pushed known) extends'.grows }
  · obtain ⟨numbered, pushed⟩ := delivering.origin value listed
    exact ⟨List.map_subset _ extends'.grows numbered, fun other => extends'.grows (pushed other)⟩
  · have known := Nat.le_trans early delivering.frontier
    have old := (extends'.pushed value pushed).resolve_right (Nat.not_lt_of_le known)
    exact (delivering.covered value old early).later extends' known

theorem Delivering.publish (delivering : Delivering polling) : Delivering polling.publish := by
  cases known : polling.published with
  | some pushed =>
    have same : polling.publish = polling := by
      rw [Polling.publish, known]
      exact congrArg (fun published => { polling with published }) known.symm
    rw [same]
    exact delivering
  | none =>
    have none (taken : List RetainedEvent) : ¬Announced polling.published taken := by
      rintro ⟨pushed, some, _⟩
      rw [known] at some
      cases some
    refine
      { delivering with
        published := fun pushed set => ?_
        announced := fun rest page holding available =>
          absurd (delivering.announced rest page holding available) (none _)
        ended := fun ended => absurd (delivering.ended ended) (none _) }
    rw [Polling.publish, known] at set
    obtain rfl := Option.some.inj set
    exact List.Subset.refl _

theorem Delivering.start (delivering : Delivering polling) : Delivering polling.start := by
  rw [Polling.start]
  split
  case isFalse => exact delivering
  case isTrue opened =>
    obtain ⟨idle, unread⟩ := opened
    have taken : ({ polling with loop := .asking } : Polling).taken = polling.taken := by
      rw [Polling.taken, Polling.taken, idle]
    have frontier : ({ polling with loop := .asking } : Polling).frontier = polling.frontier := by
      rw [Polling.frontier, Polling.frontier, idle]
    refine
      { recorded := delivering.recorded
        increasing := ?_, bound := ?_, frontier := ?_, origin := ?_, covered := ?_
        paged := by rintro _ _ ⟨⟩
        published := delivering.published
        announced := by rintro _ _ ⟨⟩
        ended := by rintro ⟨⟩
        released := fun released => ?_ }
    all_goals try rw [taken]
    all_goals try rw [frontier]
    · exact delivering.increasing
    · exact delivering.bound
    · exact delivering.frontier
    · exact delivering.origin
    · exact delivering.covered
    · exact absurd (unread.symm.trans (delivering.released released).1) (by decide)

/-- What the next page adds to the events that were taken. -/
theorem Delivering.page (delivering : Delivering polling) (asking : polling.loop = .asking)
    (pushed : value ∈ polling.history.pushed) : Accounted polling.history.queue
      (polling.yielded ++ beyond polling.cursor polling.history.queue) value := by
  have taken : polling.taken = polling.yielded := by rw [Polling.taken, asking]
  have frontier : polling.frontier = polling.cursor := by rw [Polling.frontier, asking]
  rcases Nat.lt_or_ge polling.cursor value.ordinal with later | early
  · have page := pushed_beyond delivering.recorded pushed later
    rw [Accounted]
    split
    case isTrue log =>
      rw [if_pos log] at page
      rw [List.map_append]
      exact page.imp_left (List.mem_append_right _)
    case isFalse other =>
      rw [if_neg other] at page
      exact List.mem_append_right _ page
  · rw [← frontier] at early
    have covered := delivering.covered value pushed early
    rw [taken] at covered
    exact covered.more

theorem Delivering.answer (delivering : Delivering polling) (state : ExecutionManifestState) :
    Delivering (polling.answer state) := by
  rw [Polling.answer]
  split
  case h_2 => exact delivering
  case h_1 asking =>
    have taken : polling.taken = polling.yielded := by rw [Polling.taken, asking]
    have frontier : polling.frontier = polling.cursor := by rw [Polling.frontier, asking]
    have recorded := delivering.recorded
    have increasing := delivering.increasing
    have bound := delivering.bound
    have origin := delivering.origin
    rw [taken] at increasing bound origin
    rw [frontier] at bound
    have paged (value : RetainedEvent)
        (listed : value ∈ beyond polling.cursor polling.history.queue) :
        value ∈ polling.history.queue.events ∧ polling.cursor < value.ordinal := by
      obtain ⟨held, later⟩ := List.mem_filter.mp listed
      exact ⟨held, of_decide_eq_true later⟩
    refine
      { recorded
        increasing := ?_, bound := ?_, frontier := ?_, origin := ?_
        covered := fun value pushed _ => delivering.page asking pushed
        paged := by
          rintro _ _ ⟨⟩
          exact ⟨[], List.nil_suffix, rfl⟩
        published := delivering.published
        announced := ?_
        ended := by rintro ⟨⟩
        released := fun released => ?_ }
    · show ((polling.yielded ++ beyond polling.cursor polling.history.queue).map
        RetainedEvent.ordinal).Pairwise (· < ·)
      rw [List.map_append, List.pairwise_append]
      refine ⟨increasing, ordinals_filter _ _ recorded.increasing, ?_⟩
      intro first isFirst second isSecond
      obtain ⟨value, old, rfl⟩ := List.mem_map.mp isFirst
      obtain ⟨later, new, rfl⟩ := List.mem_map.mp isSecond
      exact Nat.lt_of_le_of_lt (bound value old) (paged later new).2
    · intro value listed
      rcases List.mem_append.mp listed with old | new
      · exact Nat.le_trans (bound value old) (le_nextCursor _ _)
      · exact beyond_le_nextCursor recorded.increasing new
    · have least := delivering.frontier
      rw [frontier] at least
      exact nextCursor_le least recorded.bound
    · intro value listed
      rcases List.mem_append.mp listed with old | new
      · exact origin value old
      · have held := (paged value new).1
        refine ⟨recorded.origin (List.mem_map_of_mem held), fun other => ?_⟩
        have kept : value ∈ polling.history.queue.kept :=
          List.mem_filter.mpr ⟨held, by rw [other]; rfl⟩
        rw [recorded.kept] at kept
        exact (List.mem_filter.mp kept).1
    · rintro rest page ⟨⟩ available
      obtain ⟨pushed, known⟩ := Option.isSome_iff_exists.mp available
      refine ⟨pushed, known, fun value before other => ?_⟩
      have accounted := delivering.page asking (delivering.published pushed known before)
      rwa [Accounted, if_neg (by rw [other]; decide)] at accounted
    · obtain ⟨read, done⟩ := delivering.released released
      refine ⟨read, ?_⟩
      rcases done with idle | ended | failed
      · exact absurd (asking.symm.trans idle) (by decide)
      · exact absurd (asking.symm.trans ended) (by decide)
      · exact .inr (.inr failed)

theorem Delivering.next (delivering : Delivering polling) : Delivering polling.next := by
  rw [Polling.next]
  split
  case isTrue => exact delivering
  case isFalse running =>
    have unreleased : ∀ rest page, polling.loop = .holding rest page → polling.released ≠ true := by
      intro rest page holding released
      rcases (delivering.released released).2 with idle | ended | failed
      · exact absurd (holding.symm.trans idle) (by rintro ⟨⟩)
      · exact absurd (holding.symm.trans ended) (by rintro ⟨⟩)
      · exact running failed
    split
    case h_1 value rest page holding =>
      have taken : ({ polling with
          loop := .holding rest page
          yielded := polling.yielded ++ [value] } : Polling).taken = polling.taken := by
        rw [Polling.taken, Polling.taken, holding]
        exact List.append_assoc _ _ _
      have frontier : ({ polling with
          loop := .holding rest page
          yielded := polling.yielded ++ [value] } : Polling).frontier = polling.frontier := by
        rw [Polling.frontier, Polling.frontier, holding]
      refine
        { recorded := delivering.recorded
          increasing := ?_, bound := ?_, frontier := ?_, origin := ?_, covered := ?_, paged := ?_
          published := delivering.published
          announced := ?_
          ended := by rintro ⟨⟩
          released := fun released => absurd released (unreleased _ _ holding) }
      all_goals try rw [taken]
      all_goals try rw [frontier]
      · exact delivering.increasing
      · exact delivering.bound
      · exact delivering.frontier
      · exact delivering.origin
      · exact delivering.covered
      · rintro _ _ ⟨⟩
        obtain ⟨given, ⟨before, whole⟩, events⟩ := delivering.paged _ page holding
        refine ⟨given ++ [value], ⟨before, ?_⟩, ?_⟩
        · rw [← whole, List.append_assoc]
        · rw [events, List.append_assoc, List.singleton_append]
      · rintro _ _ ⟨⟩ available
        exact delivering.announced _ page holding available
    case h_2 page holding =>
      have taken : polling.taken = polling.yielded := by
        rw [Polling.taken, holding]
        exact List.append_nil _
      have frontier : polling.frontier = page.nextCursor := by rw [Polling.frontier, holding]
      have after : ({ polling with
          loop := if page.terminalAvailable then .ended else .asking
          cursor := page.nextCursor } : Polling).taken = polling.taken := by
        rw [taken, Polling.taken]
        cases page.terminalAvailable <;> rfl
      have next : ({ polling with
          loop := if page.terminalAvailable then .ended else .asking
          cursor := page.nextCursor } : Polling).frontier = polling.frontier := by
        rw [frontier, Polling.frontier]
        cases page.terminalAvailable <;> rfl
      refine
        { recorded := delivering.recorded
          increasing := ?_, bound := ?_, frontier := ?_, origin := ?_, covered := ?_
          paged := fun rest other held => ?_
          published := delivering.published
          announced := fun rest other held => ?_
          ended := fun ended => ?_
          released := fun released => absurd released (unreleased _ _ holding) }
      all_goals try rw [after]
      all_goals try rw [next]
      · exact delivering.increasing
      · exact delivering.bound
      · exact delivering.frontier
      · exact delivering.origin
      · exact delivering.covered
      · exfalso
        revert held
        cases page.terminalAvailable <;> rintro ⟨⟩
      · exfalso
        revert held
        cases page.terminalAvailable <;> rintro ⟨⟩
      · cases available : page.terminalAvailable with
        | true => exact delivering.announced _ page holding available
        | false =>
          rw [available] at ended
          cases ended
    case h_3 => exact delivering

theorem Delivering.fail (delivering : Delivering polling) :
    Delivering { polling with failed := true } :=
  { delivering with
    released := fun released => ⟨(delivering.released released).1, .inr (.inr rfl)⟩ }

theorem Delivering.collect (delivering : Delivering polling) : Delivering polling.collect := by
  rw [Polling.collect]
  split
  case isFalse => exact delivering
  case isTrue =>
    exact { delivering with released := fun released => ⟨rfl, (delivering.released released).2⟩ }

theorem Delivering.release (delivering : Delivering polling) : Delivering polling.release := by
  rw [Polling.release]
  split
  case isFalse => exact delivering
  case isTrue done => exact { delivering with released := fun _ => done }

theorem Delivering.step (delivering : Delivering polling) (step : Step) :
    Delivering (polling.step step) := by
  cases step with
  | call call => exact delivering.call call
  | publish => exact delivering.publish
  | start => exact delivering.start
  | answer state => exact delivering.answer state
  | next => exact delivering.next
  | fail => exact delivering.fail
  | collect => exact delivering.collect
  | release => exact delivering.release

/-- What is yielded comes first among the events that were taken. -/
theorem taken_yielded (polling : Polling) : ∃ rest, polling.taken = polling.yielded ++ rest := by
  rw [Polling.taken]
  split
  case h_1 rest _ _ => exact ⟨rest, rfl⟩
  case h_2 => exact ⟨[], (List.append_nil _).symm⟩

theorem Delivering.yielded (delivering : Delivering polling) {later : RetainedEvent}
    (seen : later ∈ polling.yielded) (taken : value ∈ polling.taken)
    (early : value.ordinal ≤ later.ordinal) : value ∈ polling.yielded := by
  have increasing := delivering.increasing
  obtain ⟨rest, split⟩ := taken_yielded polling
  rw [split] at taken increasing
  rw [List.map_append, List.pairwise_append] at increasing
  refine (List.mem_append.mp taken).resolve_right fun waiting => ?_
  have after := increasing.2.2 _ (List.mem_map_of_mem seen) _ (List.mem_map_of_mem waiting)
  exact absurd early (Nat.not_le_of_lt after)

/-- An event before one that was yielded was yielded too, or is a log that was dropped. -/
theorem Delivering.skipped (delivering : Delivering polling) {later : RetainedEvent}
    (seen : later ∈ polling.yielded) (pushed : value ∈ polling.history.pushed)
    (early : value.ordinal ≤ later.ordinal) :
    Accounted polling.history.queue polling.yielded value := by
  obtain ⟨rest, split⟩ := taken_yielded polling
  have known : later ∈ polling.taken := by
    rw [split]
    exact List.mem_append_left _ seen
  have accounted := delivering.covered value pushed
    (Nat.le_trans early (delivering.bound later known))
  rw [Accounted] at accounted ⊢
  split
  case isTrue log =>
    rw [if_pos log] at accounted
    refine accounted.imp_left fun numbered => ?_
    obtain ⟨held, taken, same⟩ := List.mem_map.mp numbered
    rw [← same] at early ⊢
    exact List.mem_map_of_mem (delivering.yielded seen taken early)
  case isFalse other =>
    rw [if_neg other] at accounted
    exact delivering.yielded seen accounted early

end Polling
end Anastom
