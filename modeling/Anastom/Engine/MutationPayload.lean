import Anastom.Core.JsonText
import Anastom.Engine.StoreRules

/-! When two mutations have one idempotency identity: the text that is digested
determines every part of the payload that it covers. -/
namespace Anastom
open Json

/-- Two mutations that name one expected sequence, one batch of events, one snapshot
and one handled control, each as the text that is stored for it. -/
structure SamePayload (left right : FencedRunMutation) : Prop where
  expectedSequence : left.expectedSequence = right.expectedSequence
  events : (left.events.map fun event => canonicalJson event.toJson) =
    right.events.map fun event => canonicalJson event.toJson
  snapshot : (left.snapshot.map fun snapshot => canonicalJson snapshot.identity) =
    right.snapshot.map fun snapshot => canonicalJson snapshot.identity
  handlesControlOperationId :
    left.handlesControlOperationId = right.handlesControlOperationId

theorem SamePayload.symm {left right : FencedRunMutation} (same : SamePayload left right) :
    SamePayload right left :=
  ⟨same.expectedSequence.symm, same.events.symm, same.snapshot.symm,
    same.handlesControlOperationId.symm⟩

theorem itemTexts_map (values : List α) (f : α → JsonValue) :
    itemTexts (values.map f) = values.map fun value => canonicalChars (f value) := by
  induction values with
  | nil => rfl
  | cons value rest ih => simp [itemTexts, ih]

theorem canonicalJson_same {a b : JsonValue} :
    canonicalJson a = canonicalJson b ↔ canonicalChars a = canonicalChars b := by
  unfold canonicalJson
  exact ⟨fun same => String.ofList_injective same, fun same => by rw [same]⟩

theorem events_same {left right : List RunEvent} :
    itemTexts (left.map RunEvent.toJson) = itemTexts (right.map RunEvent.toJson) ↔
      (left.map fun event => canonicalJson event.toJson) =
        right.map fun event => canonicalJson event.toJson := by
  rw [itemTexts_map, itemTexts_map]
  have texts (events : List RunEvent) : (events.map fun event => canonicalJson event.toJson) =
      (events.map fun event => canonicalChars event.toJson).map String.ofList := by
    simp [canonicalJson, Function.comp_def]
  rw [texts, texts]
  exact (List.map_injective_iff.mpr fun _ _ equal => String.ofList_injective equal).eq_iff.symm

theorem orNull_snapshot_same {left right : Option RunSnapshot} :
    canonicalChars (orNull RunSnapshot.identity left) =
      canonicalChars (orNull RunSnapshot.identity right) ↔
      (left.map fun snapshot => canonicalJson snapshot.identity) =
        right.map fun snapshot => canonicalJson snapshot.identity := by
  cases left <;> cases right <;>
    simp [orNull, canonicalJson_same, RunSnapshot.identity, canonicalChars]

theorem orNull_string_same {left right : Option String} :
    canonicalChars (orNull .string left) = canonicalChars (orNull .string right) ↔
      left = right := by
  constructor
  · intro same
    cases left <;> cases right <;> simp only [orNull, Option.map_none, Option.map_some,
      Option.getD_none, Option.getD_some, canonicalChars] at same
    · rfl
    · simp [stringChars] at same
    · simp [stringChars] at same
    · rw [stringChars_injective same]
  · rintro rfl
    rfl

theorem mutationPayload_same {left right : FencedRunMutation}
    (rightBound : right.expectedSequence ≤ maxSafeInteger) :
    canonicalJson (mutationPayload left) = canonicalJson (mutationPayload right) ↔
      SamePayload left right := by
  rw [canonicalJson_same]
  constructor
  · intro same
    have perm := object_injective same
    have expectedSequence := perm.mem_iff.mp (List.mem_of_getElem? (i := 0) rfl)
    have events := perm.mem_iff.mp (List.mem_of_getElem? (i := 1) rfl)
    have snapshot := perm.mem_iff.mp (List.mem_of_getElem? (i := 2) rfl)
    have handles := perm.mem_iff.mp (List.mem_of_getElem? (i := 3) rfl)
    simp [fieldTexts] at expectedSequence events snapshot handles
    constructor
    · exact numberChars_ofNat_injective (Nat.lt_of_le_of_lt rightBound (by decide)) expectedSequence
    · exact events_same.mp (array_injective events)
    · exact orNull_snapshot_same.mp snapshot
    · exact orNull_string_same.mp handles
  · intro same
    have events := events_same.mpr same.events
    have snapshot := orNull_snapshot_same.mpr same.snapshot
    have handles := orNull_string_same.mpr same.handlesControlOperationId
    simp only [mutationPayload, canonicalChars, fieldTexts, events, snapshot, handles,
      same.expectedSequence]

/-- The keys of an event's payload leave its identity fields alone. -/
def Fresh (fields : List (String × JsonValue)) : Prop :=
  ∀ entry ∈ fields, entry.1 ≠ "runId" ∧ entry.1 ≠ "sequence"

theorem Fresh.nil : Fresh [] := by
  intro entry member
  cases member

theorem Fresh.cons {key : String} {value : JsonValue} {rest : List (String × JsonValue)}
    (fresh : key ≠ "runId" ∧ key ≠ "sequence") (others : Fresh rest) :
    Fresh ((key, value) :: rest) := by
  intro entry member
  rcases List.mem_cons.mp member with rfl | member
  · exact fresh
  · exact others entry member

theorem Fresh.append {left right : List (String × JsonValue)} (first : Fresh left)
    (second : Fresh right) : Fresh (left ++ right) := by
  intro entry member
  exact (List.mem_append.mp member).elim (first entry) (second entry)

theorem Fresh.field {key : String} {f : α → JsonValue} {value : Option α}
    (fresh : key ≠ "runId" ∧ key ≠ "sequence") : Fresh (JsonValue.field key f value) := by
  cases value with
  | none => exact Fresh.nil
  | some value => exact Fresh.nil.cons fresh

theorem fields_fresh (payload : RunEventPayload) : Fresh payload.fields := by
  cases payload <;>
    simp only [RunEventPayload.fields, attemptFields, CleanupEvidence.fields, OrphanRecord.fields]
  all_goals
    repeat' first
      | exact Fresh.nil
      | refine Fresh.cons (by decide) ?_
      | refine Fresh.field (by decide)
      | refine Fresh.append ?_ ?_

theorem fieldTexts_mem {fields : List (String × JsonValue)} {key : String} {text : List Char} :
    (key, text) ∈ fieldTexts fields ↔
      ∃ value, (key, value) ∈ fields ∧ canonicalChars value = text := by
  induction fields with
  | nil => simp [fieldTexts]
  | cons entry rest ih =>
    obtain ⟨other, value⟩ := entry
    simp only [fieldTexts, List.mem_cons, Prod.mk.injEq, ih]
    constructor
    · rintro (⟨rfl, rfl⟩ | ⟨found, member, same⟩)
      · exact ⟨value, .inl ⟨rfl, rfl⟩, rfl⟩
      · exact ⟨found, .inr member, same⟩
    · rintro ⟨found, ⟨rfl, rfl⟩ | member, same⟩
      · exact .inl ⟨rfl, same.symm⟩
      · exact .inr ⟨found, member, same⟩

/-- Events with one text carry one run identity and one sequence. -/
theorem event_identity {left right : RunEvent} (bound : right.sequence ≤ maxSafeInteger)
    (same : canonicalJson left.toJson = canonicalJson right.toJson) :
    left.runId = right.runId ∧ left.sequence = right.sequence := by
  have perm := object_injective (canonicalJson_same.mp same)
  have carried {key : String} {value : JsonValue}
      (member : (key, value) ∈ [("runId", JsonValue.string left.runId),
        ("sequence", JsonValue.nat left.sequence)]) :
      ∃ other, (key, other) ∈ [("runId", JsonValue.string right.runId),
        ("sequence", JsonValue.nat right.sequence)] ∧
        canonicalChars other = canonicalChars value := by
    have here := fieldTexts_mem.mpr ⟨value, List.mem_append_right
      (("type", JsonValue.string left.payload.type) :: left.payload.fields) member, rfl⟩
    obtain ⟨other, there, equal⟩ := fieldTexts_mem.mp (perm.mem_iff.mp here)
    refine ⟨other, ?_, equal⟩
    have identity : key = "runId" ∨ key = "sequence" := by
      simp only [List.mem_cons, Prod.mk.injEq, List.not_mem_nil, or_false] at member
      exact member.imp And.left And.left
    rcases List.mem_append.mp there with described | identified
    · rcases List.mem_cons.mp described with type | payload
      · rcases identity with rfl | rfl <;> simp at type
      · have fresh := fields_fresh right.payload _ payload
        rcases identity with rfl | rfl
        · exact absurd rfl fresh.1
        · exact absurd rfl fresh.2
    · exact identified
  obtain ⟨run, runMember, runText⟩ := carried List.mem_cons_self
  obtain ⟨sequence, sequenceMember, sequenceText⟩ :=
    carried (List.mem_cons_of_mem _ List.mem_cons_self)
  simp only [List.mem_cons, Prod.mk.injEq, List.not_mem_nil, or_false, true_and,
    String.reduceEq, false_and, false_or] at runMember sequenceMember
  subst runMember sequenceMember
  exact ⟨(stringChars_injective runText).symm,
    numberChars_ofNat_injective (Nat.lt_of_le_of_lt bound (by decide)) sequenceText.symm⟩

/-- A retry under its own valid token with the payload of a valid mutation is valid. -/
theorem SamePayload.valid {input original : FencedRunMutation} (same : SamePayload input original)
    (valid : original.Valid) (token : assertRunLeaseToken input.lease = .ok ())
    (sameRun : input.lease.runId = original.lease.runId)
    (sameOperation : input.operationId = original.operationId) : input.Valid := by
  have length : input.events.length = original.events.length := by
    simpa using congrArg List.length same.events
  refine ⟨token, sameOperation ▸ valid.operationId, same.expectedSequence ▸ valid.expectedSequence,
    ?_, ?_, same.handlesControlOperationId ▸ valid.handles⟩
  · intro empty
    rw [empty] at length
    exact valid.events (List.length_eq_zero_iff.mp length.symm)
  · intro i inside
    have inside' : i < original.events.length := length ▸ inside
    obtain ⟨bound, run, sequence⟩ := valid.offsets i inside'
    have text : canonicalJson (input.events[i]).toJson = canonicalJson (original.events[i]).toJson := by
      have entry := congrArg (fun texts : List String => texts[i]?) same.events
      simpa [inside, inside'] using entry
    obtain ⟨sameId, sameSequence⟩ := event_identity (sequence ▸ bound) text
    rw [sameId, sameSequence, same.expectedSequence, sameRun]
    exact ⟨bound, run, sequence⟩

end Anastom
