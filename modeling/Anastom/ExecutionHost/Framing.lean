import Anastom.Data.Chunks
import Anastom.Data.Utf8
import Anastom.Engine.JsonRoundTrip
import Anastom.ExecutionHost.RuntimeHost

/-! Length-prefixed frames as bytes, and their three readers: the incremental decoder, the
reader of a stream that ends after one frame, and the reader of a first frame. -/
namespace Anastom
open Chunks

def frameLimit : Failure := .rangeError "Protocol frame exceeds its byte limit"

/-- `frame.writeUInt32BE(size, 0)` -/
def writeUInt32BE (size : Nat) : Except Failure Bytes := do
  require (decide (size < 2 ^ 32)) (.rangeError "The value of \"value\" is out of range")
  pure [UInt8.ofNat (size / 2 ^ 24), UInt8.ofNat (size / 2 ^ 16), UInt8.ofNat (size / 2 ^ 8),
    UInt8.ofNat size]

/-- `frame.readUInt32BE(0)` -/
def readUInt32BE : Bytes → Nat
  | a :: b :: c :: d :: _ => ((a.toNat * 2 ^ 8 + b.toNat) * 2 ^ 8 + c.toNat) * 2 ^ 8 + d.toNat
  | _ => 0

/-- The bytes of `encodeFrame(value, maxBytes)`. -/
def encodeFrameBytes (value : JsonValue) (maxBytes : Nat) : Except Failure Bytes := do
  let payload ← encodeFrame value maxBytes
  let size ← writeUInt32BE (Utf8.encode payload).length
  pure (size ++ Utf8.encode payload)

/-- Of the texts of frames, `Json.parse` reads those otherwise that escape a lone surrogate, where
it puts U+FFFD, and those with more digits than a double keeps, which it does not round. What
`encodeFrame` writes of scalar strings and doubles has neither. -/
def decodeFrame (frame : Bytes) (maxBytes : Nat) : Except Failure JsonValue := do
  require (decide (5 ≤ frame.length)) (.error "Protocol frame is incomplete")
  require (decide (1 ≤ readUInt32BE frame ∧ readUInt32BE frame ≤ maxBytes ∧
      frame.length = readUInt32BE frame + 4))
    (.error "Protocol frame length does not match its payload")
  let text ← requireSome (Utf8.textDecoder (frame.drop 4))
    (.typeError "The encoded data was not valid for encoding utf-8")
  requireSome (Json.parse text) (.error "Unexpected token in JSON")

namespace FrameDecoder

/-- The loop of `push`: every complete frame of the buffered bytes. -/
def drain (maxBytes : Nat) (bytes : Bytes) : Outcome Failure Bytes JsonValue :=
  if bytes.length < 4 then .ok (bytes, [])
  else if readUInt32BE bytes < 1 ∨ maxBytes < readUInt32BE bytes then
    .error (.rangeError "Invalid protocol frame length")
  else if bytes.length < readUInt32BE bytes + 4 then .ok (bytes, [])
  else
    match decodeFrame (bytes.take (readUInt32BE bytes + 4)) maxBytes with
    | .error failure => .error failure
    | .ok value =>
      (drain maxBytes (bytes.drop (readUInt32BE bytes + 4))).map (Prod.map id (value :: ·))
  termination_by bytes.length
  decreasing_by
    rw [List.length_drop]
    omega

/-- Append bytes and return every complete decoded value. -/
def push (maxBytes : Nat) (bytes chunk : Bytes) : Outcome Failure Bytes JsonValue :=
  chain (drain maxBytes (bytes ++ chunk)) fun rest =>
    if maxBytes + 4 < rest.length then .error frameLimit else .ok (rest, [])

/-- Assert that the stream ended between frames. -/
def finish (bytes : Bytes) : Except Failure Unit :=
  require (decide (bytes.length = 0)) (.error "Protocol stream ended with a partial frame")

/-- Every value of a stream that comes in these chunks and ends. -/
def decode (maxBytes : Nat) (chunks : List Bytes) : Except Failure (List JsonValue) := do
  let (rest, values) ← feed (push maxBytes) [] chunks
  finish rest
  pure values

end FrameDecoder

/-- How a stream is over: it ended, it failed, or it closed before its end. -/
inductive StreamEnding where
  | ended
  | failed (failure : Failure)
  | closed
  deriving DecidableEq, Repr

/-- Read exactly one framed value from a stream that must then end. -/
def readEndedFrame (maxBytes : Nat) (ending : StreamEnding) (bytes : Bytes) :
    List Bytes → Except Failure JsonValue
  | [] =>
    match ending with
    | .ended => decodeFrame bytes maxBytes
    | .failed failure => .error failure
    | .closed => .error (.error "Protocol stream closed before it ended")
  | chunk :: rest =>
    if maxBytes + 4 < bytes.length + chunk.length then .error frameLimit
    else readEndedFrame maxBytes ending (bytes ++ chunk) rest

theorem readUInt32BE_append {bytes : Bytes} (long : 4 ≤ bytes.length) (more : Bytes) :
    readUInt32BE (bytes ++ more) = readUInt32BE bytes := by
  rcases bytes with _ | ⟨a, _ | ⟨b, _ | ⟨c, _ | ⟨d, rest⟩⟩⟩⟩
  · cases long
  · cases Nat.le_of_succ_le_succ long
  · cases Nat.le_of_succ_le_succ (Nat.le_of_succ_le_succ long)
  · cases Nat.le_of_succ_le_succ (Nat.le_of_succ_le_succ (Nat.le_of_succ_le_succ long))
  · rfl

theorem readUInt32BE_take {bytes : Bytes} {n : Nat} (long : 4 ≤ n) (inside : n ≤ bytes.length) :
    readUInt32BE (bytes.take n) = readUInt32BE bytes := by
  have taken : 4 ≤ (bytes.take n).length := by
    rw [List.length_take]
    omega
  have same := readUInt32BE_append taken (bytes.drop n)
  rw [List.take_append_drop] at same
  exact same.symm

theorem writeUInt32BE_ok {size : Nat} {header : Bytes} (written : writeUInt32BE size = .ok header) :
    header.length = 4 ∧ ∀ more, readUInt32BE (header ++ more) = size := by
  rw [writeUInt32BE, require_bind_ok, decide_eq_true_iff] at written
  obtain ⟨small, written⟩ := written
  obtain rfl := Except.ok.inj written
  refine ⟨rfl, fun more => ?_⟩
  simp only [List.cons_append, readUInt32BE, UInt8.toNat_ofNat']
  omega

/-- A sequence of bytes that is one frame by its header. -/
structure IsFrame (maxBytes : Nat) (frame : Bytes) : Prop where
  some : 1 ≤ readUInt32BE frame
  fits : readUInt32BE frame ≤ maxBytes
  exact : frame.length = readUInt32BE frame + 4

theorem decodeFrame_isFrame {frame : Bytes} {maxBytes : Nat} {value : JsonValue}
    (decoded : decodeFrame frame maxBytes = .ok value) : IsFrame maxBytes frame := by
  rw [decodeFrame, require_bind_ok, require_bind_ok, decide_eq_true_iff, decide_eq_true_iff]
    at decoded
  obtain ⟨_, ⟨some, fits, exact⟩, _⟩ := decoded
  exact ⟨some, fits, exact⟩

/-- The payload of a frame is text in UTF-8 that `JSON.parse` reads. -/
theorem decodeFrame_ok {frame : Bytes} {maxBytes : Nat} (framed : IsFrame maxBytes frame)
    {text : String} {value : JsonValue} (decoded : Utf8.textDecoder (frame.drop 4) = .some text)
    (parsed : Json.parse text = .some value) : decodeFrame frame maxBytes = .ok value := by
  have long : 5 ≤ frame.length := by
    rw [framed.exact]
    exact Nat.add_le_add_right framed.some 4
  rw [decodeFrame, require_bind_ok, require_bind_ok, decide_eq_true_iff, decide_eq_true_iff]
  refine ⟨long, ⟨framed.some, framed.fits, framed.exact⟩, ?_⟩
  rw [decoded, bind_ok]
  exact ⟨text, rfl, by rw [parsed, requireSome]⟩

theorem canonicalJson_plain (value : JsonValue) :
    (Json.canonicalJson value).toList.head? ≠ some Utf8.byteOrderMark := by
  intro first
  rw [Json.canonicalJson, String.toList_ofList] at first
  exact absurd (Json.canonicalChars_ascii value _ first) (by decide)

/-- What a frame of a value holds. -/
theorem encodeFrameBytes_ok {value : JsonValue} {maxBytes : Nat} {frame : Bytes}
    (encoded : encodeFrameBytes value maxBytes = .ok frame) : IsFrame maxBytes frame ∧
      frame.drop 4 = Utf8.encode (Json.canonicalJson value) := by
  simp only [encodeFrameBytes, encodeFrame, bind_ok, require_ok, decide_eq_true_iff] at encoded
  obtain ⟨payload, ⟨_, ⟨some, fits⟩, printed⟩, header, written, joined⟩ := encoded
  obtain rfl := Except.ok.inj printed
  obtain rfl := Except.ok.inj joined
  obtain ⟨four, size⟩ := writeUInt32BE_ok written
  have bytes : (Utf8.encode (Json.canonicalJson value)).length = Json.byteLength value :=
    Utf8.length_encode _
  refine ⟨⟨?_, ?_, ?_⟩, List.drop_left' four⟩
  · rw [size, bytes]
    exact some
  · rw [size, bytes]
    exact fits
  · rw [size, List.length_append, four]
    exact Nat.add_comm _ _

namespace FrameDecoder
variable {maxBytes : Nat}

/-- Bytes that are no complete frame yet. -/
def Partial (maxBytes : Nat) (bytes : Bytes) : Prop :=
  bytes.length < 4 ∨ (1 ≤ readUInt32BE bytes ∧ readUInt32BE bytes ≤ maxBytes ∧
    bytes.length < readUInt32BE bytes + 4)

theorem Partial.bound {bytes : Bytes} (kept : Partial maxBytes bytes) :
    bytes.length ≤ maxBytes + 4 := by
  rcases kept with short | ⟨_, fits, inside⟩ <;> omega

theorem drain_waiting {bytes : Bytes} (kept : Partial maxBytes bytes) :
    drain maxBytes bytes = .ok (bytes, []) := by
  rw [drain]
  rcases kept with short | ⟨some, fits, inside⟩
  · rw [if_pos short]
  · by_cases short : bytes.length < 4
    · rw [if_pos short]
    · rw [if_neg short, if_neg (by omega), if_pos inside]

/-- A complete frame is decoded before anything behind it. -/
theorem drain_isFrame {frame : Bytes} (framed : IsFrame maxBytes frame) (rest : Bytes) :
    (∀ failure, decodeFrame frame maxBytes = .error failure →
      drain maxBytes (frame ++ rest) = .error failure) ∧
    ∀ value, decodeFrame frame maxBytes = .ok value →
      drain maxBytes (frame ++ rest) = (drain maxBytes rest).map (Prod.map id (value :: ·)) := by
  have long : 4 ≤ frame.length := by
    rw [framed.exact]
    exact Nat.le_add_left 4 _
  have size := readUInt32BE_append long rest
  have total : (frame ++ rest).length = readUInt32BE frame + 4 + rest.length := by
    rw [List.length_append, framed.exact]
  have some := framed.some
  have fits := framed.fits
  rw [drain, size, total, if_neg (by omega), if_neg (by omega), if_neg (by omega), ← framed.exact,
    List.take_left, List.drop_left]
  constructor
  · intro failure failed
    rw [failed]
  · intro value decoded
    rw [decoded]

/-- Bytes hold a complete frame first, are no complete frame yet, or start with no valid
length. -/
theorem header_cases (maxBytes : Nat) (bytes : Bytes) :
    Partial maxBytes bytes ∨ (∃ frame rest, bytes = frame ++ rest ∧ IsFrame maxBytes frame) ∨
      (4 ≤ bytes.length ∧ (readUInt32BE bytes < 1 ∨ maxBytes < readUInt32BE bytes)) := by
  by_cases short : bytes.length < 4
  · exact .inl (.inl short)
  · by_cases valid : 1 ≤ readUInt32BE bytes ∧ readUInt32BE bytes ≤ maxBytes
    · by_cases inside : bytes.length < readUInt32BE bytes + 4
      · exact .inl (.inr ⟨valid.1, valid.2, inside⟩)
      · have size : readUInt32BE (bytes.take (readUInt32BE bytes + 4)) = readUInt32BE bytes :=
          readUInt32BE_take (by omega) (by omega)
        refine .inr (.inl ⟨bytes.take (readUInt32BE bytes + 4), _,
          (List.take_append_drop _ bytes).symm, ?_, ?_, ?_⟩)
        · rw [size]
          exact valid.1
        · rw [size]
          exact valid.2
        · rw [size, List.length_take]
          omega
    · exact .inr (.inr ⟨by omega, by omega⟩)

theorem drain_invalid {bytes : Bytes} (long : 4 ≤ bytes.length)
    (invalid : readUInt32BE bytes < 1 ∨ maxBytes < readUInt32BE bytes) :
    drain maxBytes bytes = .error (.rangeError "Invalid protocol frame length") := by
  rw [drain, if_neg (by omega), if_pos invalid]

theorem map_ok {f : Bytes × List JsonValue → Bytes × List JsonValue}
    {outcome : Outcome Failure Bytes JsonValue} {read : Bytes × List JsonValue} :
    outcome.map f = .ok read ↔ ∃ before, outcome = .ok before ∧ read = f before := by
  cases outcome with
  | error failure =>
    constructor
    · rintro ⟨⟩
    · rintro ⟨_, ⟨⟩, _⟩
  | ok before =>
    constructor
    · rintro ⟨⟩
      exact ⟨before, rfl, rfl⟩
    · rintro ⟨_, ⟨⟩, rfl⟩
      rfl

theorem isFrame_positive {frame : Bytes} (framed : IsFrame maxBytes frame) : 0 < frame.length := by
  rw [framed.exact]
  exact Nat.succ_pos _

/-- What is true of bytes without a complete frame, and of bytes behind a frame before the
frame and those bytes, is true of all bytes. -/
theorem frame_induction (maxBytes : Nat) {motive : Bytes → Prop}
    (waiting : ∀ bytes, Partial maxBytes bytes → motive bytes)
    (invalid : ∀ bytes : Bytes, 4 ≤ bytes.length →
      readUInt32BE bytes < 1 ∨ maxBytes < readUInt32BE bytes → motive bytes)
    (framed : ∀ frame rest, IsFrame maxBytes frame → motive rest → motive (frame ++ rest))
    (bytes : Bytes) : motive bytes := by
  induction count : bytes.length using Nat.strongRecOn generalizing bytes with
  | ind n ih =>
    rcases header_cases maxBytes bytes with
      kept | ⟨frame, rest, rfl, complete⟩ | ⟨long, wrong⟩
    · exact waiting bytes kept
    · have positive := isFrame_positive complete
      rw [List.length_append] at count
      exact framed frame rest complete (ih rest.length (by omega) rest rfl)
    · exact invalid bytes long wrong

/-- Draining stops at bytes that are no complete frame. -/
theorem drain_kept {bytes rest : Bytes} {values : List JsonValue}
    (drained : drain maxBytes bytes = .ok (rest, values)) : Partial maxBytes rest := by
  induction bytes using frame_induction maxBytes generalizing values with
  | waiting bytes kept =>
    rw [drain_waiting kept] at drained
    cases drained
    exact kept
  | invalid bytes long wrong =>
    rw [drain_invalid long wrong] at drained
    cases drained
  | framed frame behind complete ih =>
    cases decoded : decodeFrame frame maxBytes with
    | error failure =>
      rw [(drain_isFrame complete behind).1 failure decoded] at drained
      cases drained
    | ok value =>
      rw [(drain_isFrame complete behind).2 value decoded] at drained
      obtain ⟨before, ran, same⟩ := map_ok.mp drained
      obtain ⟨rfl, _⟩ := Prod.mk.inj same
      exact ih ran

theorem drain_append (bytes more : Bytes) : drain maxBytes (bytes ++ more) =
    chain (drain maxBytes bytes) fun rest => drain maxBytes (rest ++ more) := by
  induction bytes using frame_induction maxBytes with
  | waiting bytes kept => rw [drain_waiting kept, chain_silent]
  | invalid bytes long wrong =>
    have extended : 4 ≤ (bytes ++ more).length := by
      rw [List.length_append]
      omega
    rw [drain_invalid long wrong, chain_error, drain_invalid extended]
    rwa [readUInt32BE_append long]
  | framed frame behind complete ih =>
    rw [List.append_assoc]
    cases decoded : decodeFrame frame maxBytes with
    | error failure =>
      rw [(drain_isFrame complete _).1 failure decoded, (drain_isFrame complete _).1 failure decoded,
        chain_error]
    | ok value =>
      rw [(drain_isFrame complete _).2 value decoded, (drain_isFrame complete _).2 value decoded, ih]
      cases drain maxBytes behind with
      | error failure => rfl
      | ok before =>
        obtain ⟨rest, values⟩ := before
        simp only [chain, Except.map, Prod.map, id_eq]
        cases drain maxBytes (rest ++ more) <;> rfl

/-- What is left of a chunk never passes the limit. -/
theorem push_drain (bytes chunk : Bytes) :
    push maxBytes bytes chunk = drain maxBytes (bytes ++ chunk) := by
  rw [push]
  refine (chain_congr fun rest values drained => ?_).trans (chain_stop _)
  exact if_neg (Nat.not_lt.mpr (drain_kept drained).bound)

/-- The decoder does not see how a stream was cut. -/
theorem feed_push (chunks : List Bytes) :
    feed (push maxBytes) [] chunks = drain maxBytes chunks.flatten := by
  have silent (bytes : Bytes) (kept : Partial maxBytes bytes) :
      push maxBytes bytes [] = .ok (bytes, []) := by
    rw [push_drain, List.append_nil, drain_waiting kept]
  have splits (bytes first second : Bytes) : push maxBytes bytes (first ++ second) =
      chain (push maxBytes bytes first) fun next => push maxBytes next second := by
    simp only [push_drain]
    rw [← List.append_assoc, drain_append]
  have kept (bytes chunk next : Bytes) (values : List JsonValue)
      (ran : push maxBytes bytes chunk = .ok (next, values)) : Partial maxBytes next := by
    rw [push_drain] at ran
    exact drain_kept ran
  rw [feed_flatten silent splits kept (.inl (by decide)), push_drain, List.nil_append]

theorem decode_ok {chunks : List Bytes} {values : List JsonValue} :
    decode maxBytes chunks = .ok values ↔ drain maxBytes chunks.flatten = .ok ([], values) := by
  rw [decode, feed_push, bind_ok]
  constructor
  · rintro ⟨⟨rest, read⟩, drained, ended⟩
    simp only [finish, require_bind_ok, decide_eq_true_iff] at ended
    obtain ⟨empty, same⟩ := ended
    rw [drained, List.eq_nil_of_length_eq_zero empty, Except.ok.inj same]
  · intro drained
    exact ⟨_, drained, rfl⟩

theorem drain_nil : drain maxBytes [] = .ok ([], []) := drain_waiting (.inl (by decide))

theorem drain_frames {frames : List Bytes} {values : List JsonValue}
    (decoded : List.Forall₂ (fun frame value => decodeFrame frame maxBytes = .ok value)
      frames values) : drain maxBytes frames.flatten = .ok ([], values) := by
  induction decoded with
  | nil => exact drain_nil
  | cons head _ ih =>
    rw [List.flatten_cons, (drain_isFrame (decodeFrame_isFrame head) _).2 _ head, ih]
    rfl

theorem drain_nothing {bytes rest : Bytes} (drained : drain maxBytes bytes = .ok (rest, [])) :
    rest = bytes := by
  rcases header_cases maxBytes bytes with
    kept | ⟨frame, behind, rfl, complete⟩ | ⟨long, wrong⟩
  · rw [drain_waiting kept] at drained
    cases drained
    rfl
  · cases decoded : decodeFrame frame maxBytes with
    | error failure =>
      rw [(drain_isFrame complete behind).1 failure decoded] at drained
      cases drained
    | ok value =>
      rw [(drain_isFrame complete behind).2 value decoded] at drained
      obtain ⟨before, _, same⟩ := map_ok.mp drained
      cases (Prod.mk.inj same).2
  · rw [drain_invalid long wrong] at drained
    cases drained

/-- The decoder yields one value and keeps nothing exactly on one frame. -/
theorem drain_single {bytes : Bytes} {value : JsonValue} :
    drain maxBytes bytes = .ok ([], [value]) ↔ decodeFrame bytes maxBytes = .ok value := by
  constructor
  · intro drained
    rcases header_cases maxBytes bytes with
      kept | ⟨frame, behind, rfl, complete⟩ | ⟨long, wrong⟩
    · rw [drain_waiting kept] at drained
      cases drained
    · cases decoded : decodeFrame frame maxBytes with
      | error failure =>
        rw [(drain_isFrame complete behind).1 failure decoded] at drained
        cases drained
      | ok first =>
        rw [(drain_isFrame complete behind).2 first decoded] at drained
        obtain ⟨⟨rest, more⟩, ran, same⟩ := map_ok.mp drained
        obtain ⟨empty, values⟩ := Prod.mk.inj same
        obtain ⟨rfl, nothing⟩ := List.cons.inj values
        have rest_nil : rest = [] := empty.symm
        have more_nil : more = [] := nothing.symm
        subst rest_nil more_nil
        rw [← drain_nothing ran, List.append_nil]
        exact decoded
    · rw [drain_invalid long wrong] at drained
      cases drained
  · intro decoded
    have frame := (drain_isFrame (decodeFrame_isFrame decoded) []).2 value decoded
    rw [List.append_nil, drain_nil] at frame
    exact frame

end FrameDecoder

variable {maxBytes : Nat}

theorem isFrame_append {frame more : Bytes} (first : IsFrame maxBytes frame)
    (second : IsFrame maxBytes (frame ++ more)) : more = [] := by
  have length := first.exact
  have longer := second.exact
  rw [readUInt32BE_append (by omega), List.length_append] at longer
  exact List.eq_nil_of_length_eq_zero (by omega)

/-- The size check on the way never refuses a stream that is one frame. -/
theorem readEndedFrame_ok {bytes : Bytes} {chunks : List Bytes} {value : JsonValue} :
    readEndedFrame maxBytes .ended bytes chunks = .ok value ↔
      decodeFrame (bytes ++ chunks.flatten) maxBytes = .ok value := by
  induction chunks generalizing bytes with
  | nil => rw [readEndedFrame, List.flatten_nil, List.append_nil]
  | cons chunk rest ih =>
    rw [readEndedFrame, List.flatten_cons, ← List.append_assoc]
    by_cases large : maxBytes + 4 < bytes.length + chunk.length
    · rw [if_pos large]
      constructor
      · rintro ⟨⟩
      · intro decoded
        have framed := decodeFrame_isFrame decoded
        have fits := framed.fits
        have length := framed.exact
        rw [List.length_append, List.length_append] at length
        omega
    · rw [if_neg large, ih]

/-- A decoded frame is the value that was encoded: `reread` changes the order in which the
members of its objects are listed and the sign of zero. -/
theorem decodeFrame_encoded {value : JsonValue} {frame : Bytes}
    (distinct : value.distinctKeys = true) (encoded : encodeFrameBytes value maxBytes = .ok frame) :
    decodeFrame frame maxBytes = .ok value.reread := by
  obtain ⟨framed, payload⟩ := encodeFrameBytes_ok encoded
  have text : Utf8.textDecoder (frame.drop 4) = some (Json.canonicalJson value) := by
    rw [payload, Utf8.textDecoder_encode (canonicalJson_plain value)]
  exact decodeFrame_ok framed text (Json.parse_canonicalJson distinct)

theorem frames_decode {values : List JsonValue} {frames : List Bytes}
    (encoded : List.Forall₂ (fun value frame => value.distinctKeys = true ∧
      encodeFrameBytes value maxBytes = .ok frame) values frames) :
    List.Forall₂ (fun frame value => decodeFrame frame maxBytes = .ok value) frames
      (values.map JsonValue.reread) := by
  induction encoded with
  | nil => exact .nil
  | cons head _ ih => exact .cons (decodeFrame_encoded head.1 head.2) ih

/-- Every cut of a stream of frames is read as its values; the reader of an ended stream
accepts exactly the streams that are one frame, and so neither a part of a frame nor a
frame with bytes behind it. -/
theorem framing_roundTrip (maxBytes : Nat) :
    (∀ (values : List JsonValue) (frames chunks : List Bytes),
      List.Forall₂ (fun value frame => value.distinctKeys = true ∧
        encodeFrameBytes value maxBytes = .ok frame) values frames →
      chunks.flatten = frames.flatten →
        FrameDecoder.decode maxBytes chunks = .ok (values.map JsonValue.reread)) ∧
    (∀ (chunks others : List Bytes) (value : JsonValue), chunks.flatten = others.flatten →
      (readEndedFrame maxBytes .ended [] chunks = .ok value ↔
        FrameDecoder.decode maxBytes others = .ok [value])) ∧
    (∀ (value : JsonValue) (frame first rest : Bytes) (chunks : List Bytes),
      encodeFrameBytes value maxBytes = .ok frame → frame = first ++ rest → rest ≠ [] →
      chunks.flatten = first →
        ∃ failure, readEndedFrame maxBytes .ended [] chunks = .error failure) ∧
    (∀ (value : JsonValue) (frame more : Bytes) (chunks : List Bytes),
      encodeFrameBytes value maxBytes = .ok frame → more ≠ [] → chunks.flatten = frame ++ more →
        ∃ failure, readEndedFrame maxBytes .ended [] chunks = .error failure) := by
  have refused {chunks : List Bytes} (unframed : ¬ IsFrame maxBytes chunks.flatten) :
      ∃ failure, readEndedFrame maxBytes .ended [] chunks = .error failure := by
    cases read : readEndedFrame maxBytes .ended [] chunks with
    | error failure => exact ⟨failure, rfl⟩
    | ok value =>
      rw [readEndedFrame_ok, List.nil_append] at read
      exact absurd (decodeFrame_isFrame read) unframed
  refine ⟨?_, ?_, ?_, ?_⟩
  · intro values frames chunks encoded same
    rw [FrameDecoder.decode_ok, same]
    exact FrameDecoder.drain_frames (frames_decode encoded)
  · intro chunks others value same
    rw [readEndedFrame_ok, List.nil_append, FrameDecoder.decode_ok, FrameDecoder.drain_single, same]
  · intro value frame first rest chunks encoded split some same
    apply refused
    intro framed
    have whole := (encodeFrameBytes_ok encoded).1
    rw [split] at whole
    rw [same] at framed
    exact some (isFrame_append framed whole)
  · intro value frame more chunks encoded some same
    apply refused
    intro framed
    rw [same] at framed
    exact some (isFrame_append (encodeFrameBytes_ok encoded).1 framed)

/-- The frame of `[-0]` is read as `[0]`: the text of a zero has no sign. -/
theorem framing_negativeZero :
    encodeFrameBytes (.array [.number ⟨true, 0, 0, JsonNumber.zero_normal⟩]) 16 =
        .ok [0, 0, 0, 3, 91, 48, 93] ∧
      FrameDecoder.decode 16 [[0, 0, 0, 3, 91, 48, 93]] = .ok [.array [.nat 0]] ∧
      JsonValue.array [.nat 0] ≠ .array [.number ⟨true, 0, 0, JsonNumber.zero_normal⟩] := by
  refine ⟨?_, ?_, ?_⟩ <;> decide +kernel

/-- Two frames, cut inside a header and inside a payload, and one of them read alone. -/
theorem framing_roundTrip_cut :
    FrameDecoder.decode 16 [[0, 0], [0, 4, 110, 117], [], [108, 108, 0, 0, 0, 1, 53]] =
        .ok [.null, .nat 5] ∧
      readEndedFrame 16 .ended [] [[0, 0, 0], [1, 53]] = .ok (.nat 5) ∧
      (∃ failure, readEndedFrame 16 .ended [] [[0, 0, 0], [1]] = .error failure) ∧
      ∃ failure, readEndedFrame 16 .ended [] [[0, 0, 0, 1, 53], [0]] = .error failure := by
  have null : encodeFrameBytes .null 16 = .ok [0, 0, 0, 4, 110, 117, 108, 108] := by decide +kernel
  have five : encodeFrameBytes (.nat 5) 16 = .ok [0, 0, 0, 1, 53] := by decide +kernel
  obtain ⟨cut, ended, short, long⟩ := framing_roundTrip 16
  refine ⟨?_, ?_, ?_, ?_⟩
  · exact cut [.null, .nat 5] _ _ (.cons ⟨rfl, null⟩ (.cons ⟨rfl, five⟩ .nil)) rfl
  · exact (ended [[0, 0, 0], [1, 53]] [[0, 0, 0, 1, 53]] (.nat 5) rfl).mpr
      (cut [.nat 5] _ _ (.cons ⟨rfl, five⟩ .nil) rfl)
  · exact short _ _ [0, 0, 0, 1] [53] _ five rfl (by decide) rfl
  · exact long _ _ [0] _ five (by decide) rfl

end Anastom
