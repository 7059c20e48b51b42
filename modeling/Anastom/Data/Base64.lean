import Mathlib.Algebra.Ring.Nat
import Mathlib.Data.List.GetD

/-! Padded base64 over the standard alphabet. The decoder is the tolerant one of text
decoders: it skips what is no base64 character, reads both alphabets and stops at padding;
only what the encoder writes decodes to its own source. -/
namespace Anastom.Base64

def alphabet : List Char :=
  "ABCDEFGHIJKLMNOPQRSTUVWXYZabcdefghijklmnopqrstuvwxyz0123456789+/".toList

/-- The character of six bits. -/
def digit (n : Nat) : Char := alphabet.getD n 'A'

/-- The six bits of a character, in either alphabet. -/
def digit? (c : Char) : Option Nat :=
  if c = '-' then some 62 else if c = '_' then some 63
  else if c ∈ alphabet then some (alphabet.idxOf c) else none

def encodeGroup (a b c : UInt8) : List Char :=
  [digit (a.toNat / 4), digit (a.toNat % 4 * 16 + b.toNat / 16),
    digit (b.toNat % 16 * 4 + c.toNat / 64), digit (c.toNat % 64)]

def encodeChars : List UInt8 → List Char
  | [] => []
  | [a] => [digit (a.toNat / 4), digit (a.toNat % 4 * 16), '=', '=']
  | [a, b] => [digit (a.toNat / 4), digit (a.toNat % 4 * 16 + b.toNat / 16),
      digit (b.toNat % 16 * 4), '=']
  | a :: b :: c :: rest => encodeGroup a b c ++ encodeChars rest

/-- The base64 text of a sequence of bytes. -/
def encode (bytes : List UInt8) : String := String.ofList (encodeChars bytes)

def decodeGroups : List Nat → List UInt8
  | s :: t :: u :: v :: rest =>
    UInt8.ofNat (s * 4 + t / 16) :: UInt8.ofNat (t % 16 * 16 + u / 4) ::
      UInt8.ofNat (u % 4 * 64 + v) :: decodeGroups rest
  | [s, t, u] => [UInt8.ofNat (s * 4 + t / 16), UInt8.ofNat (t % 16 * 16 + u / 4)]
  | [s, t] => [UInt8.ofNat (s * 4 + t / 16)]
  | [_] | [] => []

/-- The six-bit digits of a text, up to its padding. -/
def digits (chars : List Char) : List Nat := (chars.takeWhile (· != '=')).filterMap digit?

/-- The bytes that a text decodes to. -/
def decode (text : String) : List UInt8 := decodeGroups (digits text.toList)

theorem digit_decodes (n : Nat) (small : n < 64) : digit? (digit n) = some n ∧ digit n ≠ '=' := by
  have table : ∀ i : Fin 64, digit? (digit i) = some i.val ∧ digit i ≠ '=' := by
    unfold digit digit?
    delta alphabet
    rw [String.toList_ofList]
    decide
  exact table ⟨n, small⟩

theorem digits_cons (n : Nat) (small : n < 64) (rest : List Char) :
    digits (digit n :: rest) = n :: digits rest := by
  obtain ⟨decodes, notPadding⟩ := digit_decodes n small
  unfold digits
  rw [List.takeWhile_cons_of_pos (by simpa using notPadding), List.filterMap_cons_some decodes]

theorem digits_padding (rest : List Char) : digits ('=' :: rest) = [] := by
  unfold digits
  rw [List.takeWhile_cons_of_neg (by decide), List.filterMap_nil]

theorem ofNat_value {a : UInt8} {n : Nat} (same : n = a.toNat) : UInt8.ofNat n = a := by
  rw [same, UInt8.ofNat_toNat]

/-- Decoding what was encoded gives the bytes back. -/
theorem decode_encodeChars (bytes : List UInt8) :
    decodeGroups (digits (encodeChars bytes)) = bytes := by
  induction bytes using encodeChars.induct with
  | case1 => rfl
  | case2 a =>
    have first := a.toNat_lt
    rw [encodeChars, digits_cons _ (by omega), digits_cons _ (by omega), digits_padding]
    simp only [decodeGroups]
    rw [ofNat_value (a := a) (by omega)]
  | case3 a b =>
    have first := a.toNat_lt
    have second := b.toNat_lt
    rw [encodeChars, digits_cons _ (by omega), digits_cons _ (by omega), digits_cons _ (by omega),
      digits_padding]
    simp only [decodeGroups]
    rw [ofNat_value (a := a) (by omega), ofNat_value (a := b) (by omega)]
  | case4 a b c rest ih =>
    have first := a.toNat_lt
    have second := b.toNat_lt
    have third := c.toNat_lt
    simp only [encodeChars, encodeGroup, List.cons_append, List.nil_append]
    rw [digits_cons _ (by omega), digits_cons _ (by omega), digits_cons _ (by omega),
      digits_cons _ (by omega)]
    simp only [decodeGroups]
    rw [ih, ofNat_value (a := a) (by omega), ofNat_value (a := b) (by omega),
      ofNat_value (a := c) (by omega)]

theorem decode_encode (bytes : List UInt8) : decode (encode bytes) = bytes := by
  rw [decode, encode, String.toList_ofList, decode_encodeChars]

/-- Four characters for every three bytes begun. -/
theorem encodeChars_length (bytes : List UInt8) :
    (encodeChars bytes).length = 4 * ((bytes.length + 2) / 3) := by
  induction bytes using encodeChars.induct with
  | case1 => rfl
  | case2 a => simp [encodeChars]
  | case3 a b => simp [encodeChars]
  | case4 a b c rest ih =>
    simp only [encodeChars, encodeGroup, List.length_append, ih, List.length_cons, List.length_nil]
    omega

theorem digit_mem (n : Nat) : digit n ∈ alphabet := by
  unfold digit
  by_cases inside : n < alphabet.length
  · rw [List.getD_eq_getElem _ _ inside]
    exact List.getElem_mem inside
  · rw [List.getD_eq_default _ _ (Nat.le_of_not_lt inside)]
    decide

/-- Base64 text is made of the alphabet and padding. -/
theorem encodeChars_mem (bytes : List UInt8) :
    ∀ c ∈ encodeChars bytes, c ∈ alphabet ∨ c = '=' := by
  induction bytes using encodeChars.induct with
  | case1 => intro c member; cases member
  | case2 a =>
    intro c member
    simp only [encodeChars, List.mem_cons, List.not_mem_nil, or_false] at member
    rcases member with rfl | rfl | rfl | rfl
    · exact .inl (digit_mem _)
    · exact .inl (digit_mem _)
    · exact .inr rfl
    · exact .inr rfl
  | case3 a b =>
    intro c member
    simp only [encodeChars, List.mem_cons, List.not_mem_nil, or_false] at member
    rcases member with rfl | rfl | rfl | rfl
    · exact .inl (digit_mem _)
    · exact .inl (digit_mem _)
    · exact .inl (digit_mem _)
    · exact .inr rfl
  | case4 a b c rest ih =>
    intro d member
    simp only [encodeChars, encodeGroup, List.cons_append, List.nil_append, List.mem_cons] at member
    rcases member with rfl | rfl | rfl | rfl | later
    · exact .inl (digit_mem _)
    · exact .inl (digit_mem _)
    · exact .inl (digit_mem _)
    · exact .inl (digit_mem _)
    · exact ih d later

end Anastom.Base64
