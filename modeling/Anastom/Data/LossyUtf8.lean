import Anastom.Data.Utf8Text

/-! The UTF-8 decoder that never fails: a byte that starts no character, or breaks off the one
before it, yields U+FFFD. The bytes of a text decode to it. -/
namespace Anastom.Utf8

/-- U+FFFD -/
def replacementCharacter : Char := Char.ofNat 0xFFFD

/-- A decoder between two bytes: how many more the character needs, the bounds of the next
one and the value so far. -/
structure Decoder where
  needed : Nat := 0
  lower : Nat := 0x80
  upper : Nat := 0xBF
  value : Nat := 0
  deriving DecidableEq, Repr

namespace Decoder

/-- The first byte of a character. -/
def start (byte : Nat) : List Char × Decoder :=
  if byte ≤ 0x7F then ([Char.ofNat byte], {})
  else if 0xC2 ≤ byte ∧ byte ≤ 0xDF then ([], { needed := 1, value := byte - 0xC0 })
  else if 0xE0 ≤ byte ∧ byte ≤ 0xEF then
    ([], { needed := 2, lower := if byte = 0xE0 then 0xA0 else 0x80
           upper := if byte = 0xED then 0x9F else 0xBF, value := byte - 0xE0 })
  else if 0xF0 ≤ byte ∧ byte ≤ 0xF4 then
    ([], { needed := 3, lower := if byte = 0xF0 then 0x90 else 0x80
           upper := if byte = 0xF4 then 0x8F else 0xBF, value := byte - 0xF0 })
  else ([replacementCharacter], {})

/-- A byte out of bounds is read again as the first one of a character. -/
def next (decoder : Decoder) (byte : Nat) : List Char × Decoder :=
  if decoder.needed = 0 then start byte
  else if decoder.lower ≤ byte ∧ byte ≤ decoder.upper then
    let value := decoder.value * 64 + (byte - 0x80)
    if decoder.needed = 1 then ([Char.ofNat value], {})
    else ([], { needed := decoder.needed - 1, value })
  else (replacementCharacter :: (start byte).1, (start byte).2)

def run (decoder : Decoder) : Bytes → List Char
  | [] => if decoder.needed = 0 then [] else [replacementCharacter]
  | byte :: rest => (decoder.next byte.toNat).1 ++ (decoder.next byte.toNat).2.run rest

variable {decoder : Decoder} {n : Nat} {rest : Bytes}

end Decoder

/-- `String::NewFromUtf8` -/
def decodeLossy (bytes : Bytes) : String := String.ofList (Decoder.run {} bytes)

end Anastom.Utf8
