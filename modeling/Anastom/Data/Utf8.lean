import Mathlib.Data.List.Basic

/-! Text from bytes: the fatal UTF-8 decoder, which takes off one leading byte order mark,
and the blank texts that `trim` empties. -/
namespace Anastom

abbrev Bytes : Type := List UInt8

namespace Utf8

/-- The UTF-8 bytes of a text. -/
def encode (text : String) : Bytes := text.toByteArray.data.toList

/-- The text with these bytes. -/
def decode (bytes : Bytes) : Option String := String.fromUTF8? ⟨bytes.toArray⟩

theorem decode_eq_some {bytes : Bytes} {text : String} :
    decode bytes = some text ↔ bytes = encode text := by
  constructor
  · intro decoded
    unfold decode String.fromUTF8? at decoded
    split at decoded
    · cases decoded
      rfl
    · cases decoded
  · rintro rfl
    have same : (⟨(encode text).toArray⟩ : ByteArray) = text.toByteArray := by
      rw [encode, Array.toArray_toList]
    rw [decode, same, String.fromUTF8?, dif_pos text.isValidUTF8]
    rfl

@[simp] theorem decode_encode (text : String) : decode (encode text) = some text :=
  decode_eq_some.mpr rfl

theorem length_encode (text : String) : (encode text).length = text.utf8ByteSize := by
  rw [encode, Array.length_toList]
  rfl

/-- U+FEFF -/
def byteOrderMark : Char := Char.ofNat 0xFEFF

def stripByteOrderMark (text : String) : String :=
  if text.toList.head? = some byteOrderMark then String.ofList text.toList.tail else text

/-- `new TextDecoder("utf-8", { fatal: true }).decode(bytes)` -/
def textDecoder (bytes : Bytes) : Option String := (decode bytes).map stripByteOrderMark

theorem textDecoder_encode {text : String} (plain : text.toList.head? ≠ some byteOrderMark) :
    textDecoder (encode text) = some text := by
  rw [textDecoder, decode_encode, Option.map_some, stripByteOrderMark, if_neg plain]

/-- White space and line terminators of ECMAScript. -/
def isSpace (c : Char) : Bool :=
  [0x9, 0xA, 0xB, 0xC, 0xD, 0x20, 0xA0, 0x1680, 0x2028, 0x2029, 0x202F, 0x205F, 0x3000,
    0xFEFF].contains c.toNat || decide (0x2000 ≤ c.toNat ∧ c.toNat ≤ 0x200A)

/-- `!text.trim()` -/
def blank (text : String) : Bool := text.toList.all isSpace

end Utf8
end Anastom
