import Anastom.Data.Chunks
import Anastom.Data.Terminated
import Anastom.Data.Utf8
import Anastom.Engine.JsonParse

/-! The strict JSONL decoders of the native adapters. Cut anywhere, a stream is read as its
newline-terminated lines; the limit counts the bytes of a line however they arrive. -/
namespace Anastom
open Chunks

def newline : UInt8 := 10

/-- The texts of a decoder's errors. -/
structure JsonlMessages where
  exceeds : String
  incomplete : String
  empty : String

namespace Jsonl
variable (messages : JsonlMessages) (maxBytes : Nat)

/-- Decode one line and parse it. A lone surrogate escaped in the line becomes U+FFFD, and digits
past those of a double are kept, where `JSON.parse` keeps the surrogate and rounds; whether the
line is accepted does not depend on either. -/
def parse (pending : Bytes) : Except Failure JsonValue := do
  let text ← requireSome (Utf8.textDecoder pending)
    (.typeError "The encoded data was not valid for encoding utf-8")
  require (!Utf8.blank text) (.error messages.empty)
  requireSome (Json.parse text) (.error "Unexpected token in JSON")

/-- Decode complete frames and fail closed on oversized frames, invalid UTF-8 or invalid JSON. -/
def push (pending chunk : Bytes) : Outcome Failure Bytes JsonValue :=
  if chunk.isEmpty then .ok (pending, [])
  else
    let part := chunk.takeWhile (· != newline)
    if maxBytes < pending.length + part.length then .error (.error messages.exceeds)
    else if newline ∈ chunk then
      match parse messages (pending ++ part) with
      | .error failure => .error failure
      | .ok frame => (push [] (chunk.drop (part.length + 1))).map (Prod.map id (frame :: ·))
    else .ok (pending ++ part, [])
  termination_by chunk.length
  decreasing_by
    have some := List.length_pos_of_mem ‹newline ∈ chunk›
    rw [List.length_drop]
    omega

/-- Require newline-terminated frames at the end of the stream. -/
def finish (pending : Bytes) : Except Failure Unit :=
  require (decide (pending.length = 0)) (.error messages.incomplete)

/-- The frames of a stream that comes in these chunks and ends. -/
def decode (chunks : List Bytes) : Except Failure (List JsonValue) := do
  let (pending, frames) ← feed (push messages maxBytes) [] chunks
  finish messages pending
  pure frames

/-- The decoder on one byte. -/
def step (pending : Bytes) (byte : UInt8) : Outcome Failure Bytes JsonValue :=
  if byte = newline then (parse messages pending).map fun frame => ([], [frame])
  else if maxBytes < pending.length + 1 then .error (.error messages.exceeds)
  else .ok (pending ++ [byte], [])

variable {messages maxBytes}

theorem feed_part {pending part : Bytes} (fits : pending.length ≤ maxBytes)
    (inside : newline ∉ part) : feed (step messages maxBytes) pending part =
      if maxBytes < pending.length + part.length then .error (.error messages.exceeds)
      else .ok (pending ++ part, []) := by
  induction part generalizing pending with
  | nil => rw [feed, List.append_nil, List.length_nil, if_neg (by omega)]
  | cons byte rest ih =>
    rw [List.mem_cons, not_or] at inside
    obtain ⟨other, later⟩ := inside
    rw [feed, step, if_neg (Ne.symm other)]
    by_cases large : maxBytes < pending.length + 1
    · rw [if_pos large, chain_error, if_pos]
      rw [List.length_cons]
      omega
    · rw [if_neg large, chain_silent, ih _ later, List.append_assoc, List.singleton_append,
        List.length_append, List.length_cons, List.length_cons, List.length_nil]
      · congr 2
        omega
      · rw [List.length_append, List.length_cons, List.length_nil]
        omega

theorem takeWhile_part {chunk : Bytes} : newline ∉ chunk.takeWhile (· != newline) := by
  intro member
  have passed := List.mem_takeWhile_imp member
  rw [bne_self_eq_false] at passed
  cases passed

theorem takeWhile_newline {chunk : Bytes} (member : newline ∈ chunk) :
    chunk = chunk.takeWhile (· != newline) ++
      newline :: chunk.drop ((chunk.takeWhile (· != newline)).length + 1) := by
  induction chunk with
  | nil => cases member
  | cons byte rest ih =>
    by_cases same : byte = newline
    · subst same
      rw [List.takeWhile_cons_of_neg (by simp)]
      rfl
    · have later := List.mem_of_ne_of_mem (Ne.symm same) member
      rw [List.takeWhile_cons_of_pos (by simpa using same), List.cons_append, List.length_cons,
        List.drop_succ_cons, ← ih later]

theorem takeWhile_all {chunk : Bytes} (absent : newline ∉ chunk) :
    chunk.takeWhile (· != newline) = chunk := by
  rw [List.takeWhile_eq_self_iff]
  intro byte member
  rw [bne_iff_ne]
  rintro rfl
  exact absent member

theorem push_step {pending : Bytes} (chunk : Bytes) (fits : pending.length ≤ maxBytes) :
    push messages maxBytes pending chunk = feed (step messages maxBytes) pending chunk := by
  induction count : chunk.length using Nat.strongRecOn generalizing chunk pending with
  | ind n ih =>
    rw [push]
    split
    case isTrue empty =>
      rw [List.isEmpty_iff.mp empty, feed]
    case isFalse =>
      dsimp only
      by_cases member : newline ∈ chunk
      · have cut := takeWhile_newline member
        have some := List.length_pos_of_mem member
        generalize chunk.drop ((chunk.takeWhile (· != newline)).length + 1) = rest at cut ⊢
        have shorter : rest.length < n := by
          rw [← count, cut, List.length_append, List.length_cons]
          omega
        have later : push messages maxBytes [] rest = feed (step messages maxBytes) [] rest :=
          ih rest.length shorter rest (Nat.zero_le _) rfl
        conv_rhs => rw [cut, feed_append, feed_part fits takeWhile_part]
        split
        case isTrue => rw [chain_error]
        case isFalse =>
          rw [chain_silent, feed, step, if_pos rfl, later]
          cases parse messages (pending ++ chunk.takeWhile (· != newline)) with
          | error failure => rfl
          | ok frame =>
            dsimp only [Except.map, chain]
            cases feed (step messages maxBytes) [] rest <;> rfl
      · rw [if_neg member, takeWhile_all member, feed_part fits member]

/-- The decoder does not see how a stream was cut. -/
theorem feed_push (chunks : List Bytes) : feed (push messages maxBytes) [] chunks =
    feed (step messages maxBytes) [] chunks.flatten := by
  have agrees (pending chunk : Bytes) (fits : pending.length ≤ maxBytes) :
      push messages maxBytes pending chunk = feed (step messages maxBytes) pending chunk :=
    push_step chunk fits
  have kept (pending : Bytes) (byte : UInt8) (next : Bytes) (frames : List JsonValue)
      (_ : pending.length ≤ maxBytes)
      (stepped : step messages maxBytes pending byte = .ok (next, frames)) :
      next.length ≤ maxBytes := by
    rw [step] at stepped
    split at stepped
    · cases parsed : parse messages pending with
      | error failure =>
        rw [parsed] at stepped
        cases stepped
      | ok frame =>
        rw [parsed] at stepped
        cases stepped
        exact Nat.zero_le _
    · split at stepped
      · cases stepped
      · cases stepped
        rw [List.length_append, List.length_singleton]
        omega
  exact feed_chunks agrees kept (Nat.zero_le _) chunks

/-- A line that the decoder accepts as this frame. -/
structure Line (maxBytes : Nat) (line : Bytes) (frame : JsonValue) : Prop where
  whole : newline ∉ line
  fits : line.length ≤ maxBytes
  read : ∃ text, Utf8.textDecoder line = some text ∧ Utf8.blank text = false ∧
    Json.parse text = some frame

theorem parse_ok {line : Bytes} {frame : JsonValue} : parse messages line = .ok frame ↔
    ∃ text, Utf8.textDecoder line = some text ∧ Utf8.blank text = false ∧
      Json.parse text = some frame := by
  simp only [parse, requireSome_bind_ok, require_bind_ok, requireSome_ok, Bool.not_eq_true']

/-- Lines with their newlines. -/
def terminated (lines : List Bytes) : Bytes := lines.flatMap (· ++ [newline])

theorem terminated_cons (line : Bytes) (rest : List Bytes) :
    terminated (line :: rest) = line ++ newline :: terminated rest := by
  rw [terminated, List.flatMap_cons, List.append_assoc, List.singleton_append, terminated]

/-- From a started line, a stream is read to its end exactly when it goes on to complete
lines. -/
theorem feed_lines {pending bytes : Bytes} {frames : List JsonValue} (inside : newline ∉ pending)
    (fits : pending.length ≤ maxBytes) :
    feed (step messages maxBytes) pending bytes = .ok ([], frames) ↔
      ∃ lines, pending ++ bytes = terminated lines ∧
        List.Forall₂ (Line maxBytes) lines frames := by
  induction bytes generalizing pending frames with
  | nil =>
    rw [feed, List.append_nil]
    constructor
    · rintro ⟨⟩
      exact ⟨[], rfl, .nil⟩
    · rintro ⟨lines, same, each⟩
      cases each with
      | nil =>
        rw [terminated, List.flatMap_nil] at same
        rw [same]
      | cons _ _ =>
        rw [same, terminated_cons] at inside
        exact absurd (List.mem_append_right _ List.mem_cons_self) inside
  | cons byte rest ih =>
    rw [feed, step]
    by_cases ends : byte = newline
    · subst ends
      rw [if_pos rfl]
      constructor
      · intro ran
        obtain ⟨state, before, after, parsed, later, rfl⟩ := chain_ok.mp ran
        cases read : parse messages pending with
        | error failure =>
          rw [read] at parsed
          cases parsed
        | ok frame =>
          rw [read] at parsed
          cases parsed
          obtain ⟨lines, same, each⟩ := (ih (List.not_mem_nil) (Nat.zero_le _)).mp later
          refine ⟨pending :: lines, ?_, .cons ⟨inside, fits, parse_ok.mp read⟩ each⟩
          rw [terminated_cons, ← same, List.nil_append]
      · rintro ⟨lines, same, each⟩
        cases each with
        | nil =>
          have length := congrArg List.length same
          simp [terminated] at length
        | cons head others =>
          rw [terminated_cons] at same
          obtain ⟨rfl, behind⟩ := Terminated.line_unique inside head.whole same
          have later := (ih (List.not_mem_nil) (Nat.zero_le _)).mpr ⟨_, behind, others⟩
          rw [parse_ok.mpr head.read]
          exact chain_ok.mpr ⟨[], [_], _, rfl, later, rfl⟩
    · rw [if_neg ends]
      have longer : newline ∉ pending ++ [byte] := by
        rw [List.mem_append, List.mem_singleton]
        rintro (member | same)
        · exact inside member
        · exact ends same.symm
      have shifted : pending ++ byte :: rest = pending ++ [byte] ++ rest := by
        rw [List.append_assoc, List.singleton_append]
      have length : (pending ++ [byte]).length = pending.length + 1 := by
        rw [List.length_append, List.length_singleton]
      by_cases large : maxBytes < pending.length + 1
      · rw [if_pos large, chain_error, shifted]
        constructor
        · rintro ⟨⟩
        · rintro ⟨lines, same, each⟩
          cases each with
          | nil =>
            have lengths := congrArg List.length same
            simp [terminated] at lengths
          | cons head _ =>
            rw [terminated_cons] at same
            obtain ⟨tail, line⟩ := Terminated.line_prefix longer same
            have bound := head.fits
            rw [line, List.length_append, length] at bound
            omega
      · rw [if_neg large, chain_silent, shifted, ih longer (by omega)]

theorem decode_ok {chunks : List Bytes} {frames : List JsonValue} :
    decode messages maxBytes chunks = .ok frames ↔
      ∃ lines, chunks.flatten = terminated lines ∧ List.Forall₂ (Line maxBytes) lines frames := by
  have lines : feed (step messages maxBytes) [] chunks.flatten = .ok ([], frames) ↔ ∃ lines,
      [] ++ chunks.flatten = terminated lines ∧ List.Forall₂ (Line maxBytes) lines frames :=
    feed_lines List.not_mem_nil (Nat.zero_le _)
  rw [List.nil_append] at lines
  rw [← lines, decode, feed_push, bind_ok]
  constructor
  · rintro ⟨⟨pending, read⟩, ran, ended⟩
    simp only [finish, require_bind_ok, decide_eq_true_iff] at ended
    obtain ⟨empty, same⟩ := ended
    rw [ran, List.eq_nil_of_length_eq_zero empty, Except.ok.inj same]
  · intro ran
    exact ⟨_, ran, rfl⟩

end Jsonl

def JsonlDecoder.decode (maxBytes : Nat) (chunks : List Bytes) : Except Failure (List JsonValue) :=
  Jsonl.decode ⟨"Native JSONL frame exceeds limit", "Incomplete native JSONL frame",
    "Empty native JSONL frame"⟩ maxBytes chunks

def ClaudeJsonlDecoder.decode (maxFrameBytes : Nat) (chunks : List Bytes) :
    Except Failure (List JsonValue) :=
  Jsonl.decode ⟨"Claude Code native JSONL frame exceeds limit",
    "Claude Code native JSONL frame ended prematurely",
    "Empty Claude Code native JSONL frame"⟩ maxFrameBytes chunks

/-- Both decoders accept a stream, however it is cut, exactly when it is made of complete
lines that they accept, and give the frames of these lines. -/
theorem jsonl_decode (maxBytes : Nat) (chunks : List Bytes) (frames : List JsonValue) :
    (JsonlDecoder.decode maxBytes chunks = .ok frames ↔ ∃ lines,
      chunks.flatten = Jsonl.terminated lines ∧
        List.Forall₂ (Jsonl.Line maxBytes) lines frames) ∧
    (ClaudeJsonlDecoder.decode maxBytes chunks = .ok frames ↔ ∃ lines,
      chunks.flatten = Jsonl.terminated lines ∧
        List.Forall₂ (Jsonl.Line maxBytes) lines frames) ∧
    JsonlDecoder.decode maxBytes chunks = JsonlDecoder.decode maxBytes [chunks.flatten] ∧
    ClaudeJsonlDecoder.decode maxBytes chunks =
      ClaudeJsonlDecoder.decode maxBytes [chunks.flatten] := by
  have whole (messages : JsonlMessages) : Jsonl.decode messages maxBytes chunks =
      Jsonl.decode messages maxBytes [chunks.flatten] := by
    rw [Jsonl.decode, Jsonl.decode, Jsonl.feed_push, Jsonl.feed_push, List.flatten_singleton]
  exact ⟨Jsonl.decode_ok, Jsonl.decode_ok, whole _, whole _⟩

example : JsonlDecoder.decode 8 [[34, 0xC3], [0xA9, 34, 10, 49], [10]] =
    .ok [.string "\u00E9", .nat 1] := by
  decide +kernel

end Anastom
