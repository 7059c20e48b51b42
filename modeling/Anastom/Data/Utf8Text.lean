import Anastom.Data.Utf8

/-! The bytes of a text, character by character. A byte below 0x80 is a character of its own and
part of no other, so the bytes of a text split at an ASCII separator where the text does. -/
namespace Anastom.Utf8

theorem encode_chars (text : String) :
    encode text = text.toList.flatMap String.utf8EncodeChar := by
  rw [encode, ← String.utf8Encode_toList, List.utf8Encode, List.toList_data_toByteArray]

theorem encode_ofList (chars : List Char) :
    encode (String.ofList chars) = chars.flatMap String.utf8EncodeChar := by
  rw [encode_chars, String.toList_ofList]

theorem encode_append (a b : String) : encode (a ++ b) = encode a ++ encode b := by
  rw [encode_chars, encode_chars, encode_chars, String.toList_append, List.flatMap_append]

theorem encode_injective {a b : String} (same : encode a = encode b) : a = b := by
  have decoded := decode_encode a
  rw [same, decode_encode] at decoded
  exact (Option.some.inj decoded).symm

theorem encode_eq_nil {text : String} : encode text = [] ↔ text = "" := by
  constructor
  · intro none
    exact encode_injective none
  · rintro rfl
    rfl

/-- A byte below 0x80 is the whole of its character. -/
theorem ascii_encodeChar {c : Char} {byte : UInt8} (ascii : byte.toNat < 128)
    (member : byte ∈ String.utf8EncodeChar c) : c.toNat = byte.toNat := by
  have value : c.val.toNat = c.toNat := rfl
  unfold String.utf8EncodeChar at member
  simp only at member
  split at member
  · rw [List.mem_singleton] at member
    rw [member, UInt8.toNat_ofNat']
    omega
  · exfalso
    split at member
    · simp only [List.mem_cons, List.not_mem_nil, or_false] at member
      rcases member with rfl | rfl <;> rw [UInt8.toNat_ofNat'] at ascii <;> omega
    · split at member
      · simp only [List.mem_cons, List.not_mem_nil, or_false] at member
        rcases member with rfl | rfl | rfl <;> rw [UInt8.toNat_ofNat'] at ascii <;> omega
      · simp only [List.mem_cons, List.not_mem_nil, or_false] at member
        rcases member with rfl | rfl | rfl | rfl <;> rw [UInt8.toNat_ofNat'] at ascii <;> omega

theorem encodeChar_ascii {c : Char} (ascii : c.toNat < 128) :
    String.utf8EncodeChar c = [UInt8.ofNat c.toNat] := by
  have value : c.val.toNat = c.toNat := rfl
  unfold String.utf8EncodeChar
  simp only
  rw [if_pos (by omega), value]

theorem toNat_ascii {c : Char} (ascii : c.toNat < 128) : (UInt8.ofNat c.toNat).toNat = c.toNat := by
  rw [UInt8.toNat_ofNat']
  omega

theorem mem_encodeChar {c d : Char} (ascii : c.toNat < 128)
    (member : UInt8.ofNat c.toNat ∈ String.utf8EncodeChar d) : d = c := by
  have small : (UInt8.ofNat c.toNat).toNat < 128 := by rwa [toNat_ascii ascii]
  have same := ascii_encodeChar small member
  rw [toNat_ascii ascii] at same
  exact Char.ext (UInt32.toNat_inj.mp same)

theorem mem_encode {text : String} {c : Char} (ascii : c.toNat < 128) :
    UInt8.ofNat c.toNat ∈ encode text ↔ c ∈ text.toList := by
  rw [encode_chars, List.mem_flatMap]
  constructor
  · rintro ⟨d, inside, member⟩
    rwa [← mem_encodeChar ascii member]
  · intro inside
    exact ⟨c, inside, by rw [encodeChar_ascii ascii]; exact List.mem_singleton_self _⟩

/-- The byte 0 of a text is the character U+0000. -/
theorem zero_mem_encode {text : String} : (0 : UInt8) ∈ encode text ↔ Char.ofNat 0 ∈ text.toList := by
  have ascii : (Char.ofNat 0).toNat < 128 := by decide
  have zero : UInt8.ofNat (Char.ofNat 0).toNat = 0 := by decide
  rw [← mem_encode ascii, zero]

theorem splitOn_append {α : Type} [DecidableEq α] {sep : α} {front : List α} (free : sep ∉ front)
    (rest : List α) : (front ++ rest).splitOn sep = (rest.splitOn sep).modifyHead (front ++ ·) := by
  induction front with
  | nil =>
    rw [List.nil_append]
    cases rest.splitOn sep with
    | nil => rfl
    | cons part parts => rfl
  | cons first front ih =>
    have different : (first == sep) = false := by
      rw [beq_eq_false_iff_ne]
      rintro rfl
      exact free List.mem_cons_self
    have later := ih fun member => free (List.mem_cons_of_mem _ member)
    rw [List.cons_append, List.splitOn_cons_eq_if_modifyHead, different, later]
    cases rest.splitOn sep with
    | nil => rfl
    | cons part parts => rfl

theorem not_mem_splitOn {α : Type} [DecidableEq α] {sep : α} {whole : List α} :
    ∀ part ∈ whole.splitOn sep, sep ∉ part := by
  induction whole with
  | nil =>
    intro part member
    rw [List.splitOn_nil, List.mem_singleton] at member
    exact member ▸ List.not_mem_nil
  | cons first rest ih =>
    intro part member
    rw [List.splitOn_cons_eq_if_modifyHead] at member
    split at member
    case isTrue =>
      rcases List.mem_cons.mp member with rfl | later
      · exact List.not_mem_nil
      · exact ih part later
    case isFalse different =>
      cases parts : rest.splitOn sep with
      | nil => exact absurd parts (List.splitOn_ne_nil _ _)
      | cons opening others =>
        rw [parts] at ih member
        rcases List.mem_cons.mp member with rfl | later
        · rintro inside
          rcases List.mem_cons.mp inside with rfl | tail
          · exact different BEq.rfl
          · exact ih opening List.mem_cons_self tail
        · exact ih part (List.mem_cons_of_mem _ later)

/-- The bytes of a text split where the text does. -/
theorem splitOn_encode {sep : Char} (ascii : sep.toNat < 128) (text : String) :
    (encode text).splitOn (UInt8.ofNat sep.toNat) =
      (text.toList.splitOn sep).map fun part => encode (String.ofList part) := by
  rw [encode_chars]
  simp only [encode_ofList]
  induction text.toList with
  | nil => rfl
  | cons c chars ih =>
    rw [List.flatMap_cons]
    by_cases same : c = sep
    · subst same
      have marked := List.splitOn_append_cons_self (a := UInt8.ofNat c.toNat) []
        (chars.flatMap String.utf8EncodeChar)
      have marked' := List.splitOn_append_cons_self (a := c) [] chars
      rw [encodeChar_ascii ascii, List.singleton_append]
      rw [List.nil_append] at marked marked'
      rw [marked, marked', ih, List.map_append]
      rfl
    · have free : UInt8.ofNat sep.toNat ∉ String.utf8EncodeChar c :=
        fun member => same (mem_encodeChar ascii member)
      rw [splitOn_append free, ih, List.splitOn_cons_eq_if_modifyHead,
        beq_eq_false_iff_ne.mpr same]
      cases chars.splitOn sep with
      | nil => rfl
      | cons part parts => rw [List.map_cons]; rfl

/-- The bytes of U+FEFF. -/
def mark : Bytes := encode (String.ofList [byteOrderMark])

theorem mark_starts {text : String} :
    mark <+: encode text ↔ text.toList.head? = some byteOrderMark := by
  constructor
  · rintro ⟨rest, same⟩
    have bytes : [byteOrderMark].utf8Encode ++ ⟨rest.toArray⟩ = text.toList.utf8Encode := by
      rw [String.utf8Encode_toList]
      apply ByteArray.ext
      apply Array.toList_inj.mp
      rw [ByteArray.data_append, Array.toList_append]
      exact same
    obtain ⟨tail, joined⟩ := List.isPrefix_of_utf8Encode_append_eq_utf8Encode _ bytes
    rw [← joined]
    rfl
  · intro first
    rw [encode_chars, mark, encode_ofList]
    cases chars : text.toList with
    | nil =>
      rw [chars] at first
      cases first
    | cons c rest =>
      rw [chars] at first
      obtain rfl : c = byteOrderMark := Option.some.inj first
      exact ⟨rest.flatMap String.utf8EncodeChar, rfl⟩

/-- A text is read from its own bytes, or from its bytes behind a mark. -/
theorem textDecoder_eq_some {bytes : Bytes} {text : String} :
    textDecoder bytes = some text ↔
      (bytes = encode text ∧ ¬mark <+: bytes) ∨ bytes = mark ++ encode text := by
  have marked (rest : List Char) : encode (String.ofList (byteOrderMark :: rest)) =
      mark ++ encode (String.ofList rest) := by
    rw [mark, encode_ofList, encode_ofList, encode_ofList]
    rfl
  rw [textDecoder, Option.map_eq_some_iff]
  constructor
  · rintro ⟨whole, decoded, stripped⟩
    rw [decode_eq_some] at decoded
    subst decoded
    unfold stripByteOrderMark at stripped
    split at stripped
    case isTrue first =>
      refine .inr ?_
      cases chars : whole.toList with
      | nil =>
        rw [chars] at first
        cases first
      | cons c rest =>
        rw [chars] at first
        obtain rfl : c = byteOrderMark := Option.some.inj first
        rw [← stripped, chars, List.tail_cons, ← marked, ← chars, String.ofList_toList]
    case isFalse other =>
      rw [← stripped]
      exact .inl ⟨rfl, fun first => other (mark_starts.mp first)⟩
  · rintro (⟨rfl, free⟩ | rfl)
    · refine ⟨text, decode_encode text, ?_⟩
      rw [stripByteOrderMark, if_neg fun first => free (mark_starts.mpr first)]
    · refine ⟨String.ofList (byteOrderMark :: text.toList), ?_, ?_⟩
      · rw [decode_eq_some, marked, String.ofList_toList]
      · rw [stripByteOrderMark, String.toList_ofList, if_pos List.head?_cons,
          List.tail_cons, String.ofList_toList]

/-- What the bytes of a decoded text are. -/
def withoutMark (bytes : Bytes) : Bytes :=
  if mark <+: bytes then bytes.drop mark.length else bytes

theorem withoutMark_mark (rest : Bytes) : withoutMark (mark ++ rest) = rest := by
  rw [withoutMark, if_pos (List.prefix_append _ _), List.drop_left]

theorem withoutMark_free {bytes : Bytes} (free : ¬mark <+: bytes) : withoutMark bytes = bytes :=
  if_neg free

theorem encode_decoded {bytes : Bytes} {text : String} (decoded : textDecoder bytes = some text) :
    encode text = withoutMark bytes := by
  rcases textDecoder_eq_some.mp decoded with ⟨rfl, free⟩ | rfl
  · rw [withoutMark_free free]
  · rw [withoutMark_mark]

end Anastom.Utf8
